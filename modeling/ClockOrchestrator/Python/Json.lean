import ClockOrchestrator.Support.PrefixCode
import Mathlib.Data.List.Sort
import Mathlib.Data.String.Basic

namespace Python

open PrefixCode

def isFloatText (text : List Char) : Bool :=
  text.all (fun c => c.isDigit || c ∈ ['+', '-', '.', 'e']) && text.any (· ∈ ['.', 'e'])

-- A finite float is kept as its repr, which no two floats share.
inductive JsonFloat where
  | finite (repr : List Char) (isFloat : isFloatText repr = true)
  | infinite (negative : Bool)
  | nan
  deriving DecidableEq

inductive JsonScalar where
  | null
  | bool (value : Bool)
  | int (value : ℤ)
  | float (value : JsonFloat)
  deriving DecidableEq

inductive JsonValue where
  | scalar (value : JsonScalar)
  | str (text : String)
  | array (items : List JsonValue)
  | object (entries : List (String × JsonValue))

namespace JsonValue

structure Alg (α : Type) where
  scalar : JsonScalar → α
  str : String → α
  array : List α → α
  object : List (String × α) → α

section Fold

variable {α : Type} (alg : Alg α)

mutual

def fold : JsonValue → α
  | .scalar value => alg.scalar value
  | .str text => alg.str text
  | .array items => alg.array (foldItems items)
  | .object entries => alg.object (foldEntries entries)

def foldItems : List JsonValue → List α
  | [] => []
  | v :: rest => fold v :: foldItems rest

def foldEntries : List (String × JsonValue) → List (String × α)
  | [] => []
  | (key, v) :: rest => (key, fold v) :: foldEntries rest

end

@[simp] theorem fold_array (items : List JsonValue) :
    (array items).fold alg = alg.array (items.map (fold alg)) := by
  rw [fold]
  congr 1
  induction items with
  | nil => rfl
  | cons v rest ih => rw [foldItems, ih, List.map_cons]

@[simp] theorem fold_object (entries : List (String × JsonValue)) :
    (object entries).fold alg = alg.object (entries.map fun e => (e.1, e.2.fold alg)) := by
  rw [fold]
  congr 1
  induction entries with
  | nil => rfl
  | cons e rest ih => rw [foldEntries, ih, List.map_cons]

end Fold

def isNone : JsonValue → Bool
  | .scalar .null => true
  | _ => false

def isContainer : JsonValue → Bool
  | .array _ | .object _ => true
  | _ => false

theorem induct {P : JsonValue → Prop} (scalar : ∀ value, P (.scalar value))
    (str : ∀ text, P (.str text)) (array : ∀ items, (∀ v ∈ items, P v) → P (.array items))
    (object : ∀ entries, (∀ e ∈ entries, P e.2) → P (.object entries)) (v : JsonValue) : P v := by
  refine @JsonValue.rec P (fun items => ∀ v ∈ items, P v) (fun entries => ∀ e ∈ entries, P e.2)
    (fun e => P e.2) scalar str array object ?_ ?_ ?_ ?_ ?_ v
  · exact List.forall_mem_nil P
  · exact fun v rest hv hrest => List.forall_mem_cons.mpr ⟨hv, hrest⟩
  · exact List.forall_mem_nil _
  · exact fun e rest he hrest => List.forall_mem_cons.mpr ⟨he, hrest⟩
  · exact fun key v hv => hv

end JsonValue

def intText (n : ℤ) : List Char :=
  if n < 0 then '-' :: Nat.toDigits 10 n.natAbs else Nat.toDigits 10 n.natAbs

-- json.dumps

def JsonFloat.jsonText : JsonFloat → List Char
  | .finite repr _ => repr
  | .infinite negative => (if negative then "-Infinity" else "Infinity").toList
  | .nan => "NaN".toList

def JsonScalar.jsonText : JsonScalar → List Char
  | .null => "null".toList
  | .bool value => (if value then "true" else "false").toList
  | .int value => intText value
  | .float value => value.jsonText

def hexDigits (n : ℕ) : List Char :=
  [Nat.digitChar (n / 4096 % 16), Nat.digitChar (n / 256 % 16), Nat.digitChar (n / 16 % 16),
    Nat.digitChar (n % 16)]

def codeUnit (n : ℕ) : List Char := '\\' :: 'u' :: hexDigits n

def escapes : List (Char × Char) :=
  [('\\', '\\'), ('"', '"'), (Char.ofNat 0x08, 'b'), (Char.ofNat 0x0C, 'f'), ('\n', 'n'),
    ('\r', 'r'), ('\t', 't')]

def escape (c : Char) : List Char :=
  match escapes.find? (·.1 = c) with
  | some (_, letter) => ['\\', letter]
  | none =>
      if 0x20 ≤ c.toNat ∧ c.toNat ≤ 0x7E then [c]
      else if c.toNat < 0x10000 then codeUnit c.toNat
      else
        codeUnit (0xD800 + (c.toNat - 0x10000) / 0x400) ++
          codeUnit (0xDC00 + (c.toNat - 0x10000) % 0x400)

def quoted (text : String) : List Char := '"' :: (text.toList.flatMap escape ++ ['"'])

def sortByKey {α : Type} (entries : List (String × α)) : List (String × α) :=
  entries.insertionSort fun a b => a.1 ≤ b.1

namespace JsonValue

def writer (arrange : List (String × List Char) → List (String × List Char)) :
    Alg (List Char) where
  scalar := JsonScalar.jsonText
  str := quoted
  array items := '[' :: joined ',' ']' items
  object entries := '{' :: joined ',' '}' ((arrange entries).map fun e => quoted e.1 ++ ':' :: e.2)

-- With sort_keys and without blanks.
def dumps (v : JsonValue) : List Char := v.fold (writer sortByKey)

end JsonValue

-- str()

section Text

variable (isprintable : Char → Bool)

def JsonFloat.pyText : JsonFloat → List Char
  | .finite repr _ => repr
  | .infinite negative => (if negative then "-inf" else "inf").toList
  | .nan => "nan".toList

def JsonScalar.pyText : JsonScalar → List Char
  | .null => "None".toList
  | .bool value => (if value then "True" else "False").toList
  | .int value => intText value
  | .float value => value.pyText

def hexText (width n : ℕ) : List Char :=
  let digits := Nat.toDigits 16 n
  List.replicate (width - digits.length) '0' ++ digits

def reprChar (quote c : Char) : List Char :=
  if c = quote || c = '\\' then ['\\', c]
  else if c = '\n' then ['\\', 'n']
  else if c = '\r' then ['\\', 'r']
  else if c = '\t' then ['\\', 't']
  else if isprintable c then [c]
  else if c.toNat ≤ 0xFF then '\\' :: 'x' :: hexText 2 c.toNat
  else if c.toNat ≤ 0xFFFF then '\\' :: 'u' :: hexText 4 c.toNat
  else '\\' :: 'U' :: hexText 8 c.toNat

def reprStr (text : String) : List Char :=
  let quote := if text.contains '\'' && !text.contains '"' then '"' else '\''
  quote :: (text.toList.flatMap (reprChar isprintable quote) ++ [quote])

namespace JsonValue

def reprAlg : Alg (List Char) where
  scalar := JsonScalar.pyText
  str := reprStr isprintable
  array items := '[' :: (List.intercalate [',', ' '] items ++ [']'])
  object entries :=
    '{' :: (List.intercalate [',', ' ']
      (entries.map fun e => reprStr isprintable e.1 ++ ':' :: ' ' :: e.2) ++ ['}'])

def pyStr : JsonValue → String
  | .str text => text
  | v => String.ofList (v.fold (reprAlg isprintable))

end JsonValue

end Text

end Python
