import ChatRelay.Yaml.Node

/-!
# Merging members

A mapping may take over the members of others under the key of a merge. What is taken over comes
before the members of the mapping itself, so that these win where keys are the same. The members
of a mapping that is taken over are merged first.

A mapping may be taken over inside itself. A merge is removed before its members are looked for,
so the search always ends: `fuel` bounds its depth, and two more than twice the number of merges is
enough.
-/

namespace ChatRelay.Yaml

/-- Work on the nodes of a document. -/
abbrev Merger (α : Type) := StateT (Array Node) (Except Problem) α

namespace Merge

/-- What a node holds. -/
def contentOf (n : Nat) : Merger Content := return ((← get)[n]?.getD default).content

/-- The kind of a node. -/
def kindOf (n : Nat) : Merger Kind := return ((← get)[n]?.getD default).kind

/-- The members of a node, which must be a mapping. -/
def membersOf (n : Nat) : Merger (List (Nat × Nat)) := do
  match (← contentOf n).members? with
  | some members => return members
  | none => throw .malformed

/-- Gives a mapping other members. -/
def setMembers (n : Nat) (members : List (Nat × Nat)) : Merger Unit :=
  modify fun nodes => nodes.modify n fun node => { node with content := .mapping members }

/-- The first member with a key of some kind. -/
def firstOf? (kind : Kind) (members : List (Nat × Nat)) : Merger (Option (Nat × Nat)) := do
  let nodes ← get
  return members.find? fun m => decide ((nodes[m.1]?.getD default).kind = kind)

/-- Takes the first merge out of a mapping, and returns where its members come from. -/
def takeMerge (n : Nat) : Merger (Option Nat) := do
  let members ← membersOf n
  match ← firstOf? .merge members with
  | none => return none
  | some m =>
    setMembers n (members.erase m)
    return some m.2

/-- Makes the keys of default values ordinary texts. -/
def nameDefaults (members : List (Nat × Nat)) : Merger Unit :=
  modify fun nodes => members.foldl (fun nodes m =>
    nodes.modify m.1 fun key => if key.kind = .standard then { key with kind := .text } else key)
    nodes

mutual

/-- Merges the members of a mapping, in which no merge is left then. -/
def flatten : (fuel : Nat) → (n : Nat) → Merger Unit
  | 0, _ => throw .malformed
  | fuel + 1, n => do
    let taken ← takeOver fuel n
    let members ← membersOf n
    nameDefaults members
    setMembers n (taken ++ members)

/-- The members that a mapping takes over: from a mapping its members, and from a sequence of
mappings those of the last one first. -/
def takeOver : (fuel : Nat) → (n : Nat) → Merger (List (Nat × Nat))
  | 0, _ => throw .malformed
  | fuel + 1, n => do
    match ← takeMerge n with
    | none => return []
    | some source =>
      let offered ← match ← contentOf source with
        | .mapping _ => do
          flatten fuel source
          membersOf source
        | .sequence items => do
          let offers ← items.mapM fun item => do
            let _ ← membersOf item
            flatten fuel item
            membersOf item
          pure offers.reverse.flatten
        | .scalar _ => throw .malformed
      return offered ++ (← takeOver fuel n)

end

/-- The number of merges in all mappings. -/
def count (nodes : Array Node) : Nat :=
  nodes.foldl (fun n node =>
    ((node.content.members?.getD []).filter fun m =>
      decide ((nodes[m.1]?.getD default).kind = .merge)).length + n) 0

end Merge

end ChatRelay.Yaml
