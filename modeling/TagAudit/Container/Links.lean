import TagAudit.Container.Condition

/-!
# Links between rules and tags

A rule lists the positions of the tags that it fires and blocks. The record of a tag shows the links
from the other end: the triggers that fire it and those that block it. For that the rules are passed
over once, and the trigger of each is filed under every position that the rule lists.

* `TagIndex.add` files one identifier; `get_add` says what it changes.
* `Links.ofShapes` files the triggers of all rules.
-/

namespace TagAudit.Container

/-- The identifier of the trigger of a rule. -/
def triggerId (position : Nat) : Text := ("trigger_" : Text) ++ Text.ofNat position

/-- Identifiers filed under positions, the last one filed in front. -/
abbrev TagIndex := List (Int × List Text)

namespace TagIndex

/-- What is filed under a position, in the order of filing. -/
def get : TagIndex → Int → List Text
  | [], _ => []
  | (position, ids) :: rest, tag => if position = tag then ids.reverse else get rest tag

/-- An index with one more identifier under a position. -/
def add : TagIndex → Int → Text → TagIndex
  | [], tag, id => [(tag, [id])]
  | (position, ids) :: rest, tag, id =>
    if position = tag then (position, id :: ids) :: rest else (position, ids) :: add rest tag id

/-- An index with an identifier filed once for every position in a list. -/
def addAll (index : TagIndex) (tags : List Int) (id : Text) : TagIndex :=
  tags.foldl (fun index tag => index.add tag id) index

theorem get_add (index : TagIndex) (tag other : Int) (id : Text) :
    (index.add tag id).get other = index.get other ++ if other = tag then [id] else [] := by
  induction index with
  | nil => by_cases h : tag = other <;> simp [add, get, h, eq_comm]
  | cons entry rest ih =>
    obtain ⟨position, ids⟩ := entry
    by_cases hp : position = tag
    · subst hp
      by_cases ho : position = other
      · simp [add, get, ho]
      · have ho' : ¬other = position := fun e => ho e.symm
        simp [add, get, ho, ho']
    · by_cases ho : position = other
      · subst ho; simp [add, get, hp]
      · simp [add, get, hp, ho, ih]

end TagIndex

/-- The triggers that fire tags and those that block them. -/
structure Links where
  firing : TagIndex := []
  blocking : TagIndex := []

/-- The links with those of one more rule. -/
def Links.addRule (links : Links) (shape : RuleShape) (position : Nat) : Links where
  firing := links.firing.addAll shape.fires (triggerId position)
  blocking := links.blocking.addAll shape.blocks (triggerId position)

/-- The links of a list of rules. -/
def Links.ofShapes (shapes : List RuleShape) : Links :=
  shapes.zipIdx.foldl (fun links (shape, i) => links.addRule shape i) {}

end TagAudit.Container
