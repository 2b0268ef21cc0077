import ClockOrchestrator.Python.Json
import Mathlib.Data.Bool.AllAny

namespace Python

open PrefixCode

def IsMark (c : Char) : Prop := c ∈ [',', ':', ']', '}', '[', '{', '"']

instance (c : Char) : Decidable (IsMark c) := inferInstanceAs (Decidable (c ∈ _))

def Delimited (text : List Char) : Prop := ∀ c ∈ text.head?, IsMark c

section Scalars

theorem intText_chars {n : ℤ} {c : Char} (h : c ∈ intText n) : c.isDigit = true ∨ c = '-' := by
  unfold intText at h
  split at h
  · rcases List.mem_cons.mp h with rfl | h
    · exact .inr rfl
    · exact .inl (Nat.isDigit_of_mem_toDigits (by decide) (by decide) h)
  · exact .inl (Nat.isDigit_of_mem_toDigits (by decide) (by decide) h)

theorem intText_ne_nil (n : ℤ) : intText n ≠ [] := by
  unfold intText
  split
  · exact List.cons_ne_nil _ _
  · exact Nat.toDigits_ne_nil

theorem toDigits_inj {m n : ℕ} (h : Nat.toDigits 10 m = Nat.toDigits 10 n) : m = n := by
  rw [← @Nat.ofDigitChars_ten_toDigits m, h, Nat.ofDigitChars_ten_toDigits]

theorem intText_inj {m n : ℤ} (h : intText m = intText n) : m = n := by
  have hminus : ∀ k l : ℕ, '-' :: Nat.toDigits 10 k ≠ Nat.toDigits 10 l := by
    intro k l heq
    have hmem : '-' ∈ Nat.toDigits 10 l := heq ▸ List.mem_cons_self
    exact absurd (Nat.isDigit_of_mem_toDigits (by decide) (by decide) hmem) (by decide)
  unfold intText at h
  split at h
  · split at h
    · have habs := toDigits_inj (List.cons.inj h).2
      omega
    · exact absurd h (hminus _ _)
  · split at h
    · exact absurd h.symm (hminus _ _)
    · have habs := toDigits_inj h
      omega

theorem digit_not_mark {c : Char} (h : c.isDigit = true) : ¬ IsMark c := by
  intro hmark
  simp only [IsMark, List.mem_cons, List.not_mem_nil, or_false] at hmark
  rcases hmark with rfl | rfl | rfl | rfl | rfl | rfl | rfl <;> cases h

theorem intText_clean {n : ℤ} : ∀ c ∈ intText n, ¬ IsMark c := by
  intro c hc
  rcases intText_chars hc with hdigit | rfl
  · exact digit_not_mark hdigit
  · decide

theorem floatText_chars {text : List Char} (h : isFloatText text = true) {c : Char}
    (hc : c ∈ text) : c.isDigit = true ∨ c ∈ ['+', '-', '.', 'e'] := by
  rw [isFloatText, Bool.and_eq_true, List.all_eq_true] at h
  simpa using h.1 c hc

theorem floatText_marked {text : List Char} (h : isFloatText text = true) :
    ∃ c ∈ text, c ∈ ['.', 'e'] := by
  rw [isFloatText, Bool.and_eq_true, List.any_eq_true] at h
  simpa using h.2

namespace JsonFloat

theorem jsonText_clean (value : JsonFloat) : ∀ c ∈ value.jsonText, ¬ IsMark c := by
  cases value with
  | finite repr isFloat =>
      intro c hc
      rcases floatText_chars isFloat hc with hdigit | hother
      · exact digit_not_mark hdigit
      · simp only [List.mem_cons, List.not_mem_nil, or_false] at hother
        rcases hother with rfl | rfl | rfl | rfl <;> decide
  | infinite negative => cases negative <;> exact List.all_iff_forall_prop.mp rfl
  | nan => exact List.all_iff_forall_prop.mp rfl

theorem jsonText_marked (value : JsonFloat) : ∃ c ∈ value.jsonText, c ∈ ['.', 'e', 'I', 'N'] := by
  cases value with
  | finite repr isFloat =>
      obtain ⟨c, hc, hmark⟩ := floatText_marked isFloat
      exact ⟨c, hc, List.mem_append_left ['I', 'N'] hmark⟩
  | infinite negative => cases negative <;> exact List.any_iff_exists_prop.mp rfl
  | nan => exact List.any_iff_exists_prop.mp rfl

theorem jsonText_inj {a b : JsonFloat} (h : a.jsonText = b.jsonText) : a = b := by
  have hletter : ∀ (repr : List Char) c, isFloatText repr = true → c ∈ ['I', 'N'] → c ∉ repr := by
    intro repr c hfloat hc hmem
    simp only [List.mem_cons, List.not_mem_nil, or_false] at hc
    rcases hc with rfl | rfl
    · exact absurd (floatText_chars hfloat hmem) (by decide)
    · exact absurd (floatText_chars hfloat hmem) (by decide)
  have hspecial : ∀ (repr : List Char) (b : JsonFloat), isFloatText repr = true →
      (∃ c ∈ b.jsonText, c ∈ ['I', 'N']) → repr ≠ b.jsonText := by
    rintro repr b hfloat ⟨c, hc, hmark⟩ rfl
    exact hletter _ c hfloat hmark hc
  have hinfinite : ∀ negative, ∃ c ∈ (infinite negative).jsonText, c ∈ ['I', 'N'] := by
    intro negative
    cases negative <;> exact List.any_iff_exists_prop.mp rfl
  have hnan : ∃ c ∈ nan.jsonText, c ∈ ['I', 'N'] := List.any_iff_exists_prop.mp rfl
  cases a with
  | finite repr isFloat =>
      cases b with
      | finite repr' isFloat' =>
          cases h
          rfl
      | infinite negative => exact absurd h (hspecial _ _ isFloat (hinfinite negative))
      | nan => exact absurd h (hspecial _ .nan isFloat hnan)
  | infinite negative =>
      cases b with
      | finite repr isFloat => exact absurd h.symm (hspecial _ _ isFloat (hinfinite negative))
      | infinite negative' => revert h; cases negative <;> cases negative' <;> decide
      | nan => revert h; cases negative <;> decide
  | nan =>
      cases b with
      | finite repr isFloat => exact absurd h.symm (hspecial _ .nan isFloat hnan)
      | infinite negative => revert h; cases negative <;> decide
      | nan => rfl

end JsonFloat

namespace JsonScalar

def kind : JsonScalar → ℕ
  | .null => 0
  | .bool _ => 1
  | .float _ => 2
  | .int _ => 3

def kindOfText (text : List Char) : ℕ :=
  if text = "null".toList then 0
  else if text = "true".toList ∨ text = "false".toList then 1
  else if text.any (· ∈ ['.', 'e', 'I', 'N']) then 2
  else 3

theorem int_not_word {n : ℤ} {c : Char} {word : List Char} (hc : c ∈ word)
    (hletter : c.isDigit = false ∧ c ≠ '-') : intText n ≠ word := by
  rintro rfl
  rcases intText_chars hc with hdigit | hminus
  · rw [hletter.1] at hdigit
    cases hdigit
  · exact hletter.2 hminus

theorem float_not_word {value : JsonFloat} {c : Char} {word : List Char} (hc : c ∈ word)
    (hletter : c.isDigit = false ∧ c ∉ ['+', '-', '.', 'e'])
    (hword : word ∉ ["NaN".toList, "Infinity".toList, "-Infinity".toList]) :
    value.jsonText ≠ word := by
  rintro rfl
  cases value with
  | finite repr isFloat =>
      rcases floatText_chars isFloat hc with hdigit | hother
      · rw [hletter.1] at hdigit
        cases hdigit
      · exact hletter.2 hother
  | infinite negative => cases negative <;> exact hword (by decide)
  | nan => exact hword (by decide)

theorem kindOfText_jsonText (value : JsonScalar) : kindOfText value.jsonText = value.kind := by
  cases value with
  | null => rfl
  | bool value => cases value <;> decide
  | int n =>
      have hnull : intText n ≠ "null".toList := int_not_word (c := 'u') (by decide) (by decide)
      have htrue : intText n ≠ "true".toList := int_not_word (c := 'u') (by decide) (by decide)
      have hfalse : intText n ≠ "false".toList := int_not_word (c := 's') (by decide) (by decide)
      have hmarks : (intText n).any (· ∈ ['.', 'e', 'I', 'N']) = false := by
        refine List.any_eq_false.mpr fun c hc hmark => ?_
        rcases intText_chars hc with hdigit | rfl
        · simp only [List.mem_cons, List.not_mem_nil, or_false, decide_eq_true_eq] at hmark
          rcases hmark with rfl | rfl | rfl | rfl <;> cases hdigit
        · exact absurd hmark (by decide)
      rw [jsonText, kindOfText, if_neg hnull, if_neg (not_or.mpr ⟨htrue, hfalse⟩), hmarks]
      rfl
  | float value =>
      have hnull : value.jsonText ≠ "null".toList :=
        float_not_word (c := 'u') (by decide) (by decide) (by decide)
      have htrue : value.jsonText ≠ "true".toList :=
        float_not_word (c := 'u') (by decide) (by decide) (by decide)
      have hfalse : value.jsonText ≠ "false".toList :=
        float_not_word (c := 's') (by decide) (by decide) (by decide)
      have hmarks : value.jsonText.any (· ∈ ['.', 'e', 'I', 'N']) = true := by
        obtain ⟨c, hc, hmark⟩ := value.jsonText_marked
        exact List.any_eq_true.mpr ⟨c, hc, decide_eq_true hmark⟩
      rw [jsonText, kindOfText, if_neg hnull, if_neg (not_or.mpr ⟨htrue, hfalse⟩), if_pos hmarks]
      rfl

theorem jsonText_inj {a b : JsonScalar} (h : a.jsonText = b.jsonText) : a = b := by
  have hkind : a.kind = b.kind := by
    rw [← kindOfText_jsonText, ← kindOfText_jsonText, h]
  cases a with
  | null => cases b <;> first | rfl | cases hkind
  | bool value =>
      cases b with
      | bool value' => revert h; cases value <;> cases value' <;> decide
      | _ => cases hkind
  | int n =>
      cases b with
      | int n' => exact congrArg int (intText_inj h)
      | _ => cases hkind
  | float value =>
      cases b with
      | float value' => exact congrArg float (JsonFloat.jsonText_inj h)
      | _ => cases hkind

theorem jsonText_clean (value : JsonScalar) : ∀ c ∈ value.jsonText, ¬ IsMark c := by
  cases value with
  | null => exact List.all_iff_forall_prop.mp rfl
  | bool value => cases value <;> exact List.all_iff_forall_prop.mp rfl
  | int n => exact intText_clean
  | float value => exact value.jsonText_clean

theorem jsonText_ne_nil (value : JsonScalar) : value.jsonText ≠ [] := by
  cases value with
  | null => decide
  | bool value => cases value <;> decide
  | int n => exact intText_ne_nil n
  | float value =>
      obtain ⟨c, hc, -⟩ := value.jsonText_marked
      exact List.ne_nil_of_mem hc

end JsonScalar

end Scalars

section Strings

def unhex (c : Char) : ℕ := if c.isDigit then c.toNat - 48 else c.toNat - 87

theorem unhex_digitChar : ∀ d < 16, unhex (Nat.digitChar d) = d := by decide

def readUnit : List Char → Option (ℕ × List Char)
  | '\\' :: 'u' :: a :: b :: c :: d :: rest =>
      some (4096 * unhex a + 256 * unhex b + 16 * unhex c + unhex d, rest)
  | _ => none

theorem readUnit_codeUnit {n : ℕ} (h : n < 0x10000) (rest : List Char) :
    readUnit (codeUnit n ++ rest) = some (n, rest) := by
  simp only [codeUnit, hexDigits, List.cons_append, List.nil_append, readUnit,
    unhex_digitChar _ (Nat.mod_lt _ (by decide : 0 < 16))]
  congr 2
  omega

def unescape : List Char → Option (Char × List Char)
  | '\\' :: 'u' :: rest =>
      (readUnit ('\\' :: 'u' :: rest)).bind fun high =>
        if 0xD800 ≤ high.1 ∧ high.1 < 0xDC00 then
          (readUnit high.2).map fun low =>
            (Char.ofNat (0x10000 + (high.1 - 0xD800) * 0x400 + (low.1 - 0xDC00)), low.2)
        else some (Char.ofNat high.1, high.2)
  | '\\' :: letter :: rest => (escapes.find? (·.2 = letter)).map fun e => (e.1, rest)
  | c :: rest => some (c, rest)
  | [] => none

theorem char_range (c : Char) : c.toNat < 0xD800 ∨ 0xDFFF < c.toNat ∧ c.toNat < 0x110000 :=
  c.valid

theorem unescape_codeUnit {n : ℕ} (h : n < 0x10000) (hpair : ¬ (0xD800 ≤ n ∧ n < 0xDC00))
    (rest : List Char) : unescape (codeUnit n ++ rest) = some (Char.ofNat n, rest) := by
  have hread := readUnit_codeUnit h rest
  simp only [codeUnit, List.cons_append] at hread ⊢
  rw [unescape, hread, Option.bind_some, if_neg hpair]

theorem unescape_pair {n m : ℕ} (hn : 0xD800 ≤ n ∧ n < 0xDC00) (hm : m < 0x10000)
    (rest : List Char) : unescape (codeUnit n ++ codeUnit m ++ rest) =
      some (Char.ofNat (0x10000 + (n - 0xD800) * 0x400 + (m - 0xDC00)), rest) := by
  have hread := readUnit_codeUnit (hn.2.trans (by decide)) (codeUnit m ++ rest)
  have hread' := readUnit_codeUnit hm rest
  rw [List.append_assoc]
  rw [codeUnit, List.cons_append, List.cons_append] at hread ⊢
  rw [unescape, hread, Option.bind_some, if_pos hn, hread', Option.map_some]

theorem surrogates_value {n : ℕ} (h : 0x10000 ≤ n) :
    0x10000 + (0xD800 + (n - 0x10000) / 0x400 - 0xD800) * 0x400 +
      (0xDC00 + (n - 0x10000) % 0x400 - 0xDC00) = n := by
  omega

theorem unescape_plain {c : Char} (h : c ≠ '\\') (rest : List Char) :
    unescape (c :: rest) = some (c, rest) := by
  rw [unescape.eq_def]
  split <;> simp_all

theorem unescape_letter {e : Char × Char} (h : e ∈ escapes) (rest : List Char) :
    unescape ('\\' :: e.2 :: rest) = some (e.1, rest) := by
  simp only [escapes, List.mem_cons, List.not_mem_nil, or_false] at h
  rcases h with rfl | rfl | rfl | rfl | rfl | rfl | rfl <;> rfl

theorem unescape_escape (c : Char) (rest : List Char) :
    unescape (escape c ++ rest) = some (c, rest) := by
  have hrange := char_range c
  unfold escape
  split
  · next e letter hfind =>
      have hsame := List.find?_some hfind
      have hletter := unescape_letter (List.mem_of_find?_eq_some hfind) rest
      rw [of_decide_eq_true hsame] at hletter
      exact hletter
  · next hfind =>
      split
      · refine unescape_plain (fun hbackslash => ?_) rest
        rw [hbackslash] at hfind
        cases hfind
      · split
        · next h => rw [unescape_codeUnit h (by omega), Char.ofNat_toNat]
        · next h =>
            rw [unescape_pair (by omega) (by omega), surrogates_value (Nat.le_of_not_lt h),
              Char.ofNat_toNat]

theorem escape_told (c : Char) : Told escape (fun _ => True) c := by
  intro d x y _ _ h
  have hread := unescape_escape c x
  rw [h, unescape_escape, Option.some.injEq, Prod.mk.injEq] at hread
  exact ⟨hread.1.symm, hread.2.symm⟩

theorem escape_head (c : Char) (rest : List Char) : (escape c ++ rest).head? ≠ some '"' := by
  unfold escape
  split
  · simp
  · next hfind =>
      have hquote : c ≠ '"' := by
        rintro rfl
        cases hfind
      split
      · simpa using hquote
      · split
        · simp [codeUnit]
        · simp [codeUnit]

theorem quoted_told (text : String) : Told quoted (fun _ => True) text := by
  intro text' x y _ _ h
  simp only [quoted, List.cons_append, List.append_assoc, List.nil_append, List.cons.injEq,
    true_and] at h
  obtain ⟨htext, hxy⟩ := terminated_told escape_told escape_head h
  exact ⟨String.toList_injective htext, hxy⟩

end Strings

section Entries

variable {α β : Type}

theorem sortByKey_map (f : α → β) (entries : List (String × α)) :
    sortByKey (entries.map fun e => (e.1, f e.2)) =
      (sortByKey entries).map fun e => (e.1, f e.2) := by
  refine (List.map_insertionSort (fun a b => a.1 ≤ b.1) (fun a b => a.1 ≤ b.1)
    (fun e : String × α => (e.1, f e.2)) entries ?_).symm
  exact fun a _ b _ => Iff.rfl

theorem sortByKey_perm (entries : List (String × α)) : (sortByKey entries).Perm entries :=
  List.perm_insertionSort ..

theorem sortByKey_eq_iff {xs ys : List (String × α)} (hxs : (xs.map (·.1)).Nodup) :
    sortByKey xs = sortByKey ys ↔ xs.Perm ys := by
  constructor
  · intro h
    exact (sortByKey_perm xs).symm.trans (h ▸ sortByKey_perm ys)
  · intro h
    have hperm : (sortByKey xs).Perm (sortByKey ys) :=
      (sortByKey_perm xs).trans (h.trans (sortByKey_perm ys).symm)
    refine hperm.eq_of_pairwise (fun a b ha hb hab hba => ?_)
      (List.pairwise_insertionSort ..) (List.pairwise_insertionSort ..)
    exact List.inj_on_of_nodup_map hxs ((sortByKey_perm xs).subset ha)
      (h.symm.subset ((sortByKey_perm ys).subset hb)) (le_antisymm hab hba)

end Entries

namespace JsonValue

def canonicalAlg : Alg JsonValue := ⟨scalar, str, array, fun entries => object (sortByKey entries)⟩

def canonical (v : JsonValue) : JsonValue := v.fold canonicalAlg

def Same (v w : JsonValue) : Prop := v.canonical = w.canonical

def written (v : JsonValue) : List Char := v.fold (writer id)

@[simp] theorem canonical_scalar (value : JsonScalar) :
    (scalar value).canonical = scalar value := rfl

@[simp] theorem canonical_str (text : String) : (str text).canonical = str text := rfl

@[simp] theorem canonical_array (items : List JsonValue) :
    (array items).canonical = array (items.map canonical) := fold_array ..

@[simp] theorem canonical_object (entries : List (String × JsonValue)) :
    (object entries).canonical = object (sortByKey (entries.map fun e => (e.1, e.2.canonical))) :=
  fold_object ..

theorem written_array (items : List JsonValue) :
    (array items).written = '[' :: joined ',' ']' (items.map written) := fold_array ..

def writtenEntry (e : String × JsonValue) : List Char := quoted e.1 ++ ':' :: e.2.written

theorem written_object (entries : List (String × JsonValue)) :
    (object entries).written = '{' :: joined ',' '}' (entries.map writtenEntry) := by
  rw [written, fold_object]
  change '{' :: joined ',' '}' ((entries.map fun e => (e.1, e.2.written)).map _) = _
  rw [List.map_map]
  rfl

theorem dumps_eq (v : JsonValue) : v.dumps = v.canonical.written := by
  induction v using induct with
  | scalar value => rfl
  | str text => rfl
  | array items ih =>
      rw [dumps, fold_array, canonical_array, written_array, List.map_map]
      exact congrArg (fun texts => '[' :: joined ',' ']' texts) (List.map_congr_left ih)
  | object entries ih =>
      have hentries : (entries.map fun e => (e.1, e.2.dumps)) =
          (entries.map fun e => (e.1, e.2.canonical)).map fun e => (e.1, e.2.written) := by
        rw [List.map_map]
        exact List.map_congr_left fun e he => congrArg (e.1, ·) (ih e he)
      rw [dumps, fold_object, canonical_object, written_object]
      change '{' :: joined ',' '}' ((sortByKey (entries.map fun e => (e.1, e.2.dumps))).map _) = _
      rw [hentries, sortByKey_map, List.map_map]
      rfl

theorem written_scalar_head (value : JsonScalar) (rest : List Char) :
    ∃ c, ((scalar value).written ++ rest).head? = some c ∧ ¬ IsMark c := by
  cases htext : value.jsonText with
  | nil => exact absurd htext value.jsonText_ne_nil
  | cons c text =>
      refine ⟨c, ?_, value.jsonText_clean c (htext ▸ List.mem_cons_self)⟩
      change (value.jsonText ++ rest).head? = some c
      rw [htext]
      rfl

def mark : JsonValue → Option Char
  | .scalar _ => none
  | .str _ => some '"'
  | .array _ => some '['
  | .object _ => some '{'

theorem written_head (v : JsonValue) (rest : List Char) :
    ∃ c, (v.written ++ rest).head? = some c ∧
      if IsMark c then v.mark = some c else v.mark = none := by
  cases v with
  | scalar value =>
      obtain ⟨c, hc, hmark⟩ := written_scalar_head value rest
      exact ⟨c, hc, by rw [if_neg hmark]; rfl⟩
  | str text => exact ⟨'"', rfl, rfl⟩
  | array items => exact ⟨'[', by rw [written_array]; rfl, rfl⟩
  | object entries => exact ⟨'{', by rw [written_object]; rfl, rfl⟩

theorem mark_eq {v w : JsonValue} {x y : List Char} (h : v.written ++ x = w.written ++ y) :
    v.mark = w.mark := by
  obtain ⟨c, hc, hv⟩ := written_head v x
  obtain ⟨d, hd, hw⟩ := written_head w y
  rw [h, hd, Option.some.injEq] at hc
  subst hc
  split at hv
  · next hmark => rw [hv, if_pos hmark] at *; exact hw.symm
  · next hmark => rw [hv, if_neg hmark] at *; exact hw.symm

theorem written_open (v : JsonValue) (rest : List Char) :
    (v.written ++ rest).head? ≠ some ']' := by
  obtain ⟨c, hc, hmark⟩ := written_head v rest
  rw [hc]
  rintro ⟨⟩
  rw [if_pos (by decide)] at hmark
  cases v <;> cases hmark

theorem delimited_cons {c : Char} (h : IsMark c) (rest : List Char) : Delimited (c :: rest) := by
  rintro d ⟨⟩
  exact h

theorem written_told (v : JsonValue) : Told written Delimited v := by
  induction v using induct with
  | scalar value =>
      intro w x y hx hy h
      have hmark := mark_eq h
      cases w with
      | scalar value' =>
          obtain ⟨htext, hxy⟩ :=
            split_at_mark value.jsonText_clean value'.jsonText_clean hx hy h
          exact ⟨congrArg scalar (JsonScalar.jsonText_inj htext), hxy⟩
      | _ => cases hmark
  | str text =>
      intro w x y hx hy h
      have hmark := mark_eq h
      cases w with
      | str text' =>
          obtain ⟨htext, hxy⟩ := quoted_told text trivial trivial h
          exact ⟨congrArg str htext, hxy⟩
      | _ => cases hmark
  | array items ih =>
      intro w x y hx hy h
      have hmark := mark_eq h
      cases w with
      | array items' =>
          rw [written_array, written_array] at h
          obtain ⟨hitems, hxy⟩ := joined_told (by decide) (delimited_cons (by decide))
            (delimited_cons (by decide)) written_open ih (List.cons.inj h).2
          exact ⟨congrArg array hitems, hxy⟩
      | _ => cases hmark
  | object entries ih =>
      intro w x y hx hy h
      have hmark := mark_eq h
      have hopen : ∀ (e : String × JsonValue) rest, (writtenEntry e ++ rest).head? ≠ some '}' := by
        rintro e rest ⟨⟩
      have hentry : ∀ e ∈ entries, Told writtenEntry Delimited e :=
        fun e he => (quoted_told e.1).pair (ih e he)
      cases w with
      | object entries' =>
          rw [written_object, written_object] at h
          obtain ⟨hentries, hxy⟩ := joined_told (by decide) (delimited_cons (by decide))
            (delimited_cons (by decide)) hopen hentry (List.cons.inj h).2
          exact ⟨congrArg object hentries, hxy⟩
      | _ => cases hmark

theorem dumps_eq_iff {v w : JsonValue} : v.dumps = w.dumps ↔ Same v w := by
  rw [dumps_eq, dumps_eq]
  refine ⟨fun h => ?_, congrArg written⟩
  exact Told.eq written_told (fun c hc => by cases hc) h

theorem Same.isContainer_eq {v w : JsonValue} (h : Same v w) : v.isContainer = w.isContainer := by
  cases v <;> cases w <;> simp [Same, isContainer] at h ⊢

theorem Same.eq_of_plain {v w : JsonValue} (h : Same v w) (hplain : v.isContainer = false) :
    v = w := by
  cases v <;> cases w <;> simp_all [Same, isContainer]

theorem pyStr_container (isprintable : Char → Bool) {v : JsonValue} (h : v.isContainer = true) :
    ∃ c rest, (v.pyStr isprintable).toList = c :: rest ∧ c ∈ ['[', '{'] := by
  cases v with
  | scalar value => cases h
  | str text => cases h
  | array items =>
      exact ⟨'[', _, String.toList_ofList.trans (fold_array (reprAlg isprintable) items),
        by decide⟩
  | object entries =>
      exact ⟨'{', _, String.toList_ofList.trans (fold_object (reprAlg isprintable) entries),
        by decide⟩

end JsonValue

end Python
