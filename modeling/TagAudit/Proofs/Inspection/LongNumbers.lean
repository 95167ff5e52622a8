import TagAudit.Proofs.Literal.Pieces
import TagAudit.Proofs.Literal.Strict
import TagAudit.Proofs.Source.Embedded

/-!
# Integers that are too long to be written

No integer of more than `Fault.digitLimit` decimal digits is read from decimal or written. A literal
may spell such an integer in hexadecimal all the same, and then a record holds it.

* `hexLiteral`, `hexDocument`: a container with one record, which is no map but an integer.
* `evaluate_hexLiteral`: only the permissive reader accepts the literal.
* `locate_hexLiteral`: behind an assignment it is located.
* `longDigits`: digits of an integer that is too long.
-/

namespace TagAudit.Inspection

open Literal

/-- A container with one record under a key, which is no map but an integer. -/
def hexLiteral (key digits : Text) : Text :=
  ("\x7b" : Text) ++ (key ++ ((":[0x" : Text) ++ (digits ++ ("]\x7d" : Text))))

/-- The integer of `hexLiteral`. -/
def hexValue (digits : Text) : Int := Numeral.toNat 16 (digits.filterMap CodePoint.hexValue?)

/-- The members of `hexLiteral`. -/
def hexMembers (key digits : Text) : Members Data := [(key, .array [.int (hexValue digits)])]

/-- The document of `hexLiteral`. -/
def hexDocument (key digits : Text) : Document :=
  Document.ofMembers (hexMembers key digits) (some "var_data_assignment")

theorem key_containerKey {key : Text} (hkey : key ∈ Source.containerKeys) : Key key key := by
  simp only [Source.containerKeys, List.mem_cons, List.not_mem_nil, or_false] at hkey
  rcases hkey with rfl | rfl | rfl | rfl
  · exact .word (c := 't') (s := "ags") (by decide) (by decide)
  · exact .word (c := 'm') (s := "acros") (by decide) (by decide)
  · exact .word (c := 'p') (s := "redicates") (by decide) (by decide)
  · exact .word (c := 'r') (s := "ules") (by decide) (by decide)

section

variable {key digits : Text} (hkey : key ∈ Source.containerKeys)
  (hdigits : ∀ c ∈ digits, c.hexValue?.isSome = true)

include hkey hdigits

theorem balanced_hexLiteral : Source.Balanced (hexLiteral key digits) := by
  have hkeys : ∀ key ∈ Source.containerKeys, ∀ c ∈ key, Source.IsPlain c := by decide
  have hplain : ∀ c ∈ key ++ ((":[0x" : Text) ++ (digits ++ ("]" : Text))), Source.IsPlain c := by
    refine List.forall_mem_append.mpr ⟨hkeys key hkey, List.forall_mem_append.mpr ⟨by decide,
      List.forall_mem_append.mpr ⟨fun c hc => ?_, by decide⟩⟩⟩
    exact Source.isPlain_of_class (p := fun c => c.hexValue?.isSome) (by decide) (hdigits c hc)
  refine ⟨_, Source.inside_of_plain hplain, ?_⟩
  simp [hexLiteral]
  rfl

theorem normalize_hexLiteral : normalize (hexLiteral key digits) = hexLiteral key digits := by
  have hkeys : ∀ key ∈ Source.containerKeys, ∀ c ∈ key,
      isQuote c = false ∧ c ≠ '/' ∧ c ≠ ',' := by decide
  refine normalize_eq_self (List.forall_mem_append.mpr ⟨by decide,
    List.forall_mem_append.mpr ⟨hkeys key hkey, List.forall_mem_append.mpr ⟨by decide,
      List.forall_mem_append.mpr ⟨fun c hc => ?_, by decide⟩⟩⟩⟩)
  have hne {d : CodePoint} (hd : d.hexValue?.isSome = false) : c ≠ d :=
    ne_of_class (p := fun c => c.hexValue?.isSome) (hdigits c hc) hd
  have hquote : c ≠ '"' := hne (by decide)
  have hapostrophe : c ≠ '\'' := hne (by decide)
  exact ⟨by simp [isQuote, hquote, hapostrophe], hne (by decide), hne (by decide)⟩

variable (hsome : digits ≠ [])

include hsome

theorem hexLiteral_value (depth : Nat) :
    Value (depth + 3) (hexLiteral key digits) (.object (hexMembers key digits)) := by
  have hnumber : Number (([] : Text) ++ ('0' : CodePoint) :: ('x' : CodePoint) :: digits)
      (.int (hexValue digits)) :=
    .mk .none (.hex (.inl rfl) hdigits hsome) .hex
  have harray : Value (depth + 2) _ (.array [_]) := .array (.last .nil (.number hnumber) .nil)
  have hobject : Value (depth + 3) _ (.object (hexMembers key digits)) :=
    .object (.last .nil (key_containerKey hkey) .nil .nil harray .nil) ⟨rfl, fun _ => rfl⟩
  convert hobject using 1
  simp [hexLiteral]
  rfl

/-- Only the permissive reader accepts it. -/
theorem evaluate_hexLiteral :
    evaluate (hexLiteral key digits) = .ok (.object (hexMembers key digits)) := by
  obtain ⟨failure, hstrict⟩ : ∃ failure, Json.read (hexLiteral key digits) = .error failure := by
    simp only [Source.containerKeys, List.mem_cons, List.not_mem_nil, or_false] at hkey
    rcases hkey with rfl | rfl | rfl | rfl <;> exact ⟨_, rfl⟩
  have hrenders : Renders depthLimit (hexLiteral key digits) (.object (hexMembers key digits)) :=
    ⟨[], _, [], (List.append_nil _).symm, .nil, hexLiteral_value hkey hdigits hsome 487, .gap .nil⟩
  unfold evaluate
  simp only [normalize_hexLiteral hkey hdigits, hstrict, hrenders.read_eq_ok]

variable (hlength : digits.length ≤ 4000000)

include hlength

/-- **An integer of any length** is located, whatever stands in front of the assignment. -/
theorem locate_hexLiteral {before : Text}
    (hbefore : (Source.sitePattern Source.varDataHead).search? before = none) (id : Text) :
    Source.locate {} (before ++ (("var data = " : Text) ++ hexLiteral key digits)) id =
      hexDocument key digits := by
  have hlead : Source.Spells Source.varDataHead "var data = " :=
    .word (.blanks (b := " ") (by decide) (by decide) (.word (.blanks (b := " ") (by decide)
      (by decide) (.word (.blanks (b := " ") (by decide) (by decide) .nil)))))
  have hwindow : (hexLiteral key digits).length ≤ ({} : Source.Limits).window := by
    have hkeys : ∀ key ∈ Source.containerKeys, key.length ≤ 10 := by decide
    have hshort := hkeys key hkey
    simp only [hexLiteral, List.length_append]
    change 1 + (key.length + (4 + (digits.length + 2))) ≤ 5000000
    omega
  have hunwrap : Source.unwrapResource (.object (hexMembers key digits)) =
      .object (hexMembers key digits) := by
    simp only [Source.containerKeys, List.mem_cons, List.not_mem_nil, or_false] at hkey
    rcases hkey with rfl | rfl | rfl | rfl <;> rfl
  have hfinds : Source.Strategy.varData.Finds {}
      (before ++ (("var data = " : Text) ++ (hexLiteral key digits ++ []))) id
      (hexMembers key digits) :=
    Source.assigned_of_append (c := 'v') rfl (by decide) hbefore hlead
      (balanced_hexLiteral hkey hdigits) hwindow (evaluate_hexLiteral hkey hdigits hsome)
      ⟨hunwrap, key, hkey, List.mem_cons_self⟩ []
  rw [List.append_nil] at hfinds
  exact Source.locate_eq_of_first hfinds fun _ h => nomatch h

end

/-- The digits of an integer that is too long to be written. -/
def longDigits : Text := ('1' : CodePoint) :: List.replicate 3600 ('0' : CodePoint)

theorem longDigits_hex : ∀ c ∈ longDigits, c.hexValue?.isSome = true := by
  refine List.forall_mem_cons.mpr ⟨rfl, fun c hc => ?_⟩
  rw [List.eq_of_mem_replicate hc]
  rfl

theorem longDigits_length : longDigits.length ≤ 4000000 := by
  rw [longDigits, List.length_cons, List.length_replicate]
  decide

theorem longDigits_long : tenPow Fault.digitLimit ≤ (hexValue longDigits).natAbs := by
  have hone : CodePoint.hexValue? ('1' : CodePoint) = some 1 := rfl
  have hzero : CodePoint.hexValue? ('0' : CodePoint) = some 0 := rfl
  unfold hexValue longDigits
  rw [List.filterMap_cons_some hone, List.filterMap_replicate_of_some hzero]
  decide +kernel


end TagAudit.Inspection
