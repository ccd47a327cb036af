import CollectionSql.Json.Token

/-!
# JSON documents as read

A `Tree` is a document before anyone has decided what it means: repeated members are all there, and
leaves without a value keep their place. `Tree.parse?` builds it from tokens with a stack of open
containers, one token at a time, so nesting is bounded by nothing but the text.

What a reader then asks of a tree: how deep it is (`height`), and the value that it stands for
(`toJson?`), which every leaf must have.
-/

namespace CollectionSql.Json

/-- A document as it was written. -/
inductive Tree where
  | null
  | bool (value : Bool)
  | number (value : Option Number)
  | string (value : Option String)
  | array (items : List Tree)
  | object (members : List (Option String × Tree))

namespace Tree

/-! ## From tokens to a tree -/

/-- A container that is still open, with what was read of it, latest first. -/
inductive Frame where
  | array (before : List Tree)
  | object (before : List (Option String × Tree)) (key : Option String)

/-- What may come next. -/
inductive Expect where
  /-- A value. -/
  | value
  /-- The first item of an array, or its end. -/
  | itemOrEnd
  /-- The first key of an object, or its end. -/
  | keyOrEnd
  /-- A key, after the members before it. -/
  | key (before : List (Option String × Tree))
  /-- The colon after a key. -/
  | colon (before : List (Option String × Tree)) (key : Option String)
  /-- A comma or the end of the container, after a complete value. -/
  | rest (last : Tree)

/-- The state of reading: what may come next, inside which containers. -/
structure State where
  expect : Expect
  frames : List Frame

/-- The leaf that a token stands for. -/
def ofToken? : Token → Option Tree
  | .null => some .null
  | .bool b => some (.bool b)
  | .number n => some (.number n)
  | .string s => some (.string s)
  | _ => none

/-- A token where a value must start. -/
def startValue (t : Token) (frames : List Frame) : Option State :=
  match t with
  | .openArray => some ⟨.itemOrEnd, frames⟩
  | .openObject => some ⟨.keyOrEnd, frames⟩
  | t => (ofToken? t).map fun leaf => ⟨.rest leaf, frames⟩

/-- One token. -/
def step (s : State) (t : Token) : Option State :=
  match s.expect, t with
  | .value, t => startValue t s.frames
  | .itemOrEnd, .closeArray => some ⟨.rest (.array []), s.frames⟩
  | .itemOrEnd, t => startValue t (.array [] :: s.frames)
  | .keyOrEnd, .closeObject => some ⟨.rest (.object []), s.frames⟩
  | .keyOrEnd, .string k => some ⟨.colon [] k, s.frames⟩
  | .key before, .string k => some ⟨.colon before k, s.frames⟩
  | .colon before k, .colon => some ⟨.value, .object before k :: s.frames⟩
  | .rest last, t =>
    match s.frames, t with
    | .array before :: frames, .comma => some ⟨.value, .array (last :: before) :: frames⟩
    | .array before :: frames, .closeArray =>
      some ⟨.rest (.array (last :: before).reverse), frames⟩
    | .object before k :: frames, .comma => some ⟨.key ((k, last) :: before), frames⟩
    | .object before k :: frames, .closeObject =>
      some ⟨.rest (.object ((k, last) :: before).reverse), frames⟩
    | _, _ => none
  | _, _ => none

/-- The tokens from left to right. An array is on the stack from its first item on, an object from
the colon of its first member on. -/
def run (s : State) (ts : List Token) : Option State := ts.foldlM step s

/-- The document that a text holds: one value and nothing after it. -/
def parse? (text : String) : Option Tree := do
  let ts ← tokens text.toList
  match ← run ⟨.value, []⟩ ts with
  | ⟨.rest t, []⟩ => some t
  | _ => none

/-! ## What a tree stands for -/

mutual

/-- The number of containers that are open at the deepest point. -/
def height : Tree → Nat
  | .array items => heightOfItems items + 1
  | .object members => heightOfMembers members + 1
  | _ => 0

/-- The greatest height of a list of trees. -/
def heightOfItems : List Tree → Nat
  | [] => 0
  | t :: ts => max t.height (heightOfItems ts)

/-- The greatest height of the values of members. -/
def heightOfMembers : List (Option String × Tree) → Nat
  | [] => 0
  | (_, t) :: ms => max t.height (heightOfMembers ms)

end

mutual

/-- The value of a tree, `none` if a leaf or a key has none. A repeated key keeps its first place
and its last value. -/
def toJson? : Tree → Option Json
  | .null => some .null
  | .bool b => some (.bool b)
  | .number n => n.map .number
  | .string s => s.map .string
  | .array items => (itemsToJson? items).map .array
  | .object members => (membersToJson? members).map fun ms => .object (Dict.ofPairs ms)

/-- The values of a list of trees. -/
def itemsToJson? : List Tree → Option (List Json)
  | [] => some []
  | t :: ts => do
    let j ← t.toJson?
    let js ← itemsToJson? ts
    return j :: js

/-- The keys and values of members, repetitions included. -/
def membersToJson? : List (Option String × Tree) → Option (List (String × Json))
  | [] => some []
  | (k, t) :: ms => do
    let k ← k
    let j ← t.toJson?
    let js ← membersToJson? ms
    return (k, j) :: js

end

mutual

/-- The tree of a value: what reading its text gives. -/
def ofJson : Json → Tree
  | .null => .null
  | .bool b => .bool b
  | .number n => .number (some n)
  | .string s => .string (some s)
  | .array items => .array (ofItems items)
  | .object members => .object (ofMembers members)

/-- The trees of a list of values. -/
def ofItems : List Json → List Tree
  | [] => []
  | j :: js => ofJson j :: ofItems js

/-- The members of an object. -/
def ofMembers : List (String × Json) → List (Option String × Tree)
  | [] => []
  | (k, j) :: ms => (some k, ofJson j) :: ofMembers ms

end

end Tree

end CollectionSql.Json
