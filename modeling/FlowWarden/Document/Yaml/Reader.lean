import FlowWarden.Document.Yaml.Node
import FlowWarden.Document.Yaml.Value
/-!
# Reading YAML

`read?` gives the document that a text writes. Maps take the entries of others under the key
`<<`, their own entries counting more, and equal keys count once. Of several problems the one
nearest to the root is told, and among equally near ones the first.
-/

namespace FlowWarden.Document.Yaml

/-! ## Merging -/

def Node.tag : Node → Tag
  | .scalar t _ => t
  | .sequence t _ => t
  | .mapping t _ => t

/-- A node of another kind. -/
def Node.retag (t : Tag) : Node → Node
  | .scalar _ s => .scalar t s
  | .sequence _ items => .sequence t items
  | .mapping _ entries => .mapping t entries

/-- Whether an entry asks for the entries of other maps. -/
def isMerge (e : Node × Node) : Bool :=
  e.1.tag == .merge

/-- The entries that a node gives to a map that asks for them. -/
def offered (entriesOf : Node → Option (List (Node × Node))) : Node → Option (List (Node × Node))
  | .sequence _ items => (items.mapM entriesOf).map fun es => es.reverse.flatten
  | n => entriesOf n

/-- The entries of a map with those that it asks for before its own. A map that asks for what is
no map keeps asking. A key that stands for the map is a text here. -/
def mergeEntries (entriesOf : Node → Option (List (Node × Node))) (entries : List (Node × Node)) :
    List (Node × Node) :=
  match (entries.filter isMerge).mapM fun e => offered entriesOf e.2 with
  | none => entries
  | some given =>
    let own := (entries.filter fun e => !isMerge e).map fun e =>
      if e.1.tag == .value then (e.1.retag .text, e.2) else e
    given.flatten ++ own

/-- The entries of a map whose own requests have been answered. -/
def settledEntries : Node → Option (List (Node × Node))
  | .mapping _ entries => if entries.any isMerge then none else some entries
  | _ => none

/-- The entries of a map, answering first the requests of one with a tag of its own. -/
def entriesOf : Node → Option (List (Node × Node))
  | .mapping .map entries => settledEntries (.mapping .map entries)
  | .mapping t entries => settledEntries (.mapping t (mergeEntries settledEntries entries))
  | _ => none

mutual

/-- A node with all requests of its maps answered. -/
def Node.merged : Node → Node
  | .scalar t s => .scalar t s
  | .sequence t items => .sequence t (mergedItems items)
  | .mapping t entries =>
    let es := mergedEntries entries
    .mapping t (if t == .map then mergeEntries entriesOf es else es)

def mergedItems : List Node → List Node
  | [] => []
  | n :: ns => n.merged :: mergedItems ns

def mergedEntries : List (Node × Node) → List (Node × Node)
  | [] => []
  | (k, v) :: es => (k.merged, v.merged) :: mergedEntries es

end

/-! ## Keys -/

/-- Whether a float is the given integer. -/
def isIntegerValue (n : Int) (x : Float) : Bool :=
  match Binary64.classify x with
  | .finite negative m e =>
    let m : Int := if negative then -m else m
    if 0 ≤ e then m * Nat.pow 2 e.toNat == n else m == n * Nat.pow 2 (-e).toNat
  | _ => false

/-- The integer that a truth value or an integer is. -/
def wholeNumber? : Document → Option Int
  | .bool b => some (if b then 1 else 0)
  | .int n => some n
  | _ => none

/-- Whether two keys are the same. Numbers are compared by value, whatever their kind. -/
def sameKey (a b : Document) : Bool :=
  match wholeNumber? a, wholeNumber? b with
  | some m, some n => m == n
  | some m, none => match b with
    | .float y => isIntegerValue m y
    | _ => false
  | none, some n => match a with
    | .float x => isIntegerValue n x
    | _ => false
  | none, none => match a, b with
    | .null, .null => true
    | .float x, .float y => x == y || (x.isNaN && y.isNaN)
    | .text s, .text t => s == t
    | .date d, .date e => d == e
    | .moment m, .moment n => Moment.comparable m n && m.instant == n.instant
    | _, _ => false

def isKey : Document → Bool
  | .list _ => false
  | .map _ => false
  | _ => true

/-! ## Values -/

/-- A problem, and how far from the root it is met. -/
structure Fault where
  depth : Nat
  problem : Problem

/-- The first of two problems that is nearest to the root. -/
def Fault.nearest : Option Fault → Option Fault → Option Fault
  | none, b => b
  | a, none => a
  | some a, some b => some (if b.depth < a.depth then b else a)

/-- What a node stands for, as far as it stands for anything, and its problem. -/
structure Built (α : Type) where
  result : α
  fault : Option Fault := none

/-- The scalar that stands for a map: the value of its first key of that kind. -/
def scalarOf : Node → Option String
  | .scalar _ s => some s
  | .sequence _ _ => none
  | .mapping _ entries =>
    match entries.attach.find? fun e => e.1.1.tag == .value with
    | some e => scalarOf e.1.2
    | none => none
termination_by n => sizeOf n
decreasing_by
  have h := List.sizeOf_lt_of_mem e.2
  have : sizeOf e.1.2 < sizeOf e.1 := by
    obtain ⟨⟨key, value⟩, _⟩ := e
    simp only [Prod.mk.sizeOf_spec]
    omega
  simp only [Node.mapping.sizeOf_spec]
  omega

/-- The value of a scalar met at a depth. -/
def buildScalar (depth : Nat) (tag : Tag) (s : String) : Built Document :=
  match scalarValue tag s with
  | .ok d => { result := d }
  | .error p => { result := .null, fault := some ⟨depth, p⟩ }

def failAt (depth : Nat) : Built Document :=
  { result := .null, fault := some ⟨depth, .unreadable⟩ }

mutual

/-- What a node at a depth stands for. -/
def Node.build (depth : Nat) : Node → Built Document
  | .scalar .list _ => failAt (depth + 1)
  | .scalar .map _ => failAt (depth + 1)
  | .scalar t s => buildScalar depth t s
  | .sequence .list items =>
    let b := buildItems (depth + 1) items
    { result := .list b.result, fault := b.fault }
  | .sequence .map _ => failAt (depth + 1)
  | .sequence _ _ => failAt depth
  | .mapping .map entries =>
    if entries.any isMerge then failAt (depth + 1)
    else
      let b := buildEntries (depth + 1) entries
      { result := .map (b.result.foldl (fun m e => insertEntry (sameKey e.1) e.1 e.2 m) [])
        fault := b.fault }
  | .mapping .list _ => failAt (depth + 1)
  | .mapping t entries =>
    match scalarOf (.mapping t entries) with
    | some s => buildScalar depth t s
    | none => failAt depth

def buildItems (depth : Nat) : List Node → Built (List Document)
  | [] => { result := [] }
  | n :: ns =>
    let b := n.build depth
    let bs := buildItems depth ns
    { result := b.result :: bs.result, fault := Fault.nearest b.fault bs.fault }

def buildEntries (depth : Nat) : List (Node × Node) → Built (List (Document × Document))
  | [] => { result := [] }
  | (k, v) :: es =>
    let key := k.build depth
    let unfit := if isKey key.result then none else some ⟨depth, .unreadable⟩
    let value := v.build depth
    let bs := buildEntries depth es
    { result := (key.result, value.result) :: bs.result
      fault := Fault.nearest (Fault.nearest key.fault unfit)
        (Fault.nearest value.fault bs.fault) }

end

/-! ## Texts -/

/-- A text in which all lines end with a newline. -/
def newlinesOnly : List Char → List Char
  | '\r' :: '\n' :: cs => '\n' :: newlinesOnly cs
  | '\r' :: cs => '\n' :: newlinesOnly cs
  | c :: cs => c :: newlinesOnly cs
  | [] => []

/-- A character that a text may hold. -/
def isAllowed (c : Char) : Bool :=
  let n := c.toNat
  n == 0x09 || n == 0x0a || n == 0x0d || (0x20 ≤ n && n ≤ 0x7e) || n == 0x85 ||
    (0xa0 ≤ n && n ≤ 0xd7ff) || (0xe000 ≤ n && n ≤ 0xfffd) || 0x10000 ≤ n

/-- The document that a text writes. -/
def read? (s : String) : Except Problem Document := do
  let cs := newlinesOnly s.toList
  if !cs.all isAllowed then throw Problem.unreadable
  let node ← Node.ofTokens? (← tokens cs)
  let built := node.merged.build 0
  match built.fault with
  | some f => throw f.problem
  | none => pure built.result

end FlowWarden.Document.Yaml
