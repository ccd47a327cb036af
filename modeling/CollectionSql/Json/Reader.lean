import CollectionSql.Json.Tree

/-!
# Reading typed documents

Readers turn a tree into a value of a type. A document may nest `nestingLimit` containers, but only
what is read counts: a record takes no notice of members it does not know, however deep they are and
whatever their leaves say. A tagged union is different. Its tag may come last, so the whole of it is
read before its meaning is known, and everything inside counts. From there on the parts are
`buffered`: no limit is left to check.

A record may be written as an object or as the array of its fields in declaration order, and a union
as an object with a `type` member or as an array that starts with the tag.
-/

namespace CollectionSql.Json

/-- The number of containers that may be open at once. -/
def nestingLimit : Nat := 127

/-- How a part of a document is read. -/
inductive Mode where
  /-- Straight from the text, with room for this many more open containers. -/
  | direct (levels : Nat)
  /-- From a part that was read whole before its meaning was known. -/
  | buffered
deriving DecidableEq

namespace Mode

/-- The mode inside a container. -/
def enter : Mode → Option Mode
  | .direct 0 => none
  | .direct (levels + 1) => some (.direct levels)
  | .buffered => some .buffered

/-- Whether a tree can be read whole: it is not too deep and all its leaves have values. -/
def admits : Mode → Tree → Bool
  | .direct levels, t => t.height ≤ levels && t.toJson?.isSome
  | .buffered, _ => true

end Mode

/-- Reads a value of a type, `none` if the tree is not one. -/
abbrev Reader (α : Type) := Mode → Tree → Option α

namespace Reader

variable {α : Type}

/-- A string. -/
def string : Reader String
  | _, .string s => s
  | _, _ => none

/-- A truth value. -/
def bool : Reader Bool
  | _, .bool b => some b
  | _, _ => none

/-- An integer of 32 bits without sign. A number with a point or an exponent is none, and neither is
minus zero. -/
def nat32 : Reader Nat
  | _, .number (some (.integer n)) => if 0 ≤ n ∧ n < 0x100000000 then some n.toNat else none
  | _, _ => none

/-- Any value. -/
def json : Reader Json := fun mode t => if mode.admits t then t.toJson? else none

/-- An array of items of one type. -/
def list (item : Reader α) : Reader (List α) := fun mode t =>
  match t with
  | .array items => do
    let inner ← mode.enter
    items.mapM (item inner)
  | _ => none

/-- The members of an object, with keys that have a value. -/
def members : List (Option String × Tree) → Option (List (String × Tree))
  | [] => some []
  | (k, t) :: ms => do
    let k ← k
    let ms ← members ms
    return (k, t) :: ms

/-- An object with values of one type. A repeated key keeps its first place and its last value. -/
def dict (value : Reader α) : Reader (Dict α) := fun mode t =>
  match t with
  | .object ms => do
    let inner ← mode.enter
    let ms ← members ms
    let entries ← ms.mapM fun m => (value inner m.2).map (m.1, ·)
    return Dict.ofPairs entries
  | _ => none

/-- A value or `null`. -/
def option (value : Reader α) : Reader (Option α) := fun mode t =>
  match t with
  | .null => some none
  | t => (value mode t).map some

/-- One of a fixed set of words: the word, or an object with that one key and nothing in it. -/
def choice (words : List (String × α)) : Reader α := fun mode t =>
  match t with
  | .string s => s.bind (Dict.get? words)
  | .object [(k, .null)] => do
    let _ ← mode.enter
    k.bind (Dict.get? words)
  | .object [(k, .object [])] => if mode = .buffered then k.bind (Dict.get? words) else none
  | _ => none

end Reader

/-! ## Records -/

/-- The fields of a record that were given, and the mode to read them in. -/
structure Record where
  mode : Mode
  given : Dict Tree

namespace Record

variable {α : Type}

/-- The record with the given field names. Unknown members are passed over; a known one may not
come twice, and an array may not have more items than there are fields. -/
def reader (names : List String) : Reader Record := fun mode t => do
  let inner ← mode.enter
  match t with
  | .array items => if items.length ≤ names.length then some ⟨inner, names.zip items⟩ else none
  | .object ms => do
    let known := (← Reader.members ms).filter fun m => names.contains m.1
    if (known.map Prod.fst).Nodup then some ⟨inner, known⟩ else none
  | _ => none

/-- A field that must be given. -/
def required (r : Record) (name : String) (value : Reader α) : Option α := do
  value r.mode (← r.given.get? name)

/-- A field that may be missing or `null`. -/
def optional (r : Record) (name : String) (value : Reader α) : Option (Option α) :=
  match r.given.get? name with
  | none => some none
  | some t => Reader.option value r.mode t

/-- A field that may be missing. -/
def withDefault (r : Record) (name : String) (value : Reader α) (default : α) : Option α :=
  match r.given.get? name with
  | none => some default
  | some t => value r.mode t

end Record

/-! ## Tagged unions -/

/-- The member that holds the tag of a union. -/
def tagKey : String := "type"

/-- The tag that a tree names. Inside a buffered part a tag may also be given by its position. -/
def tagOf (tags : List String) : Reader String
  | _, .string s => s.bind fun s => if tags.contains s then some s else none
  | .buffered, .number (some (.integer n)) => if 0 ≤ n then tags[n.toNat]? else none
  | _, _ => none

/-- A tagged value: its tag and what is left without it. The tag must be there exactly once. -/
def Reader.variant (tags : List String) : Reader (String × Tree) := fun mode t =>
  if mode.admits t then
    match t with
    | .array (first :: rest) => (tagOf tags mode first).map (·, .array rest)
    | .object ms =>
      match ms.partition fun m => m.1 = some tagKey with
      | ([(_, first)], rest) => (tagOf tags mode first).map (·, .object rest)
      | _ => none
    | _ => none
  else none

/-- The fields of a tagged value. -/
def Record.ofVariant (names : List String) (body : Tree) : Option Record :=
  Record.reader names .buffered body

/-- The value of a type that a text holds. -/
def Reader.parse? {α : Type} (value : Reader α) (text : String) : Option α := do
  value (.direct nestingLimit) (← Tree.parse? text)

end CollectionSql.Json
