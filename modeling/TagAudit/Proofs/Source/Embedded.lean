import TagAudit.Proofs.Json.Balanced
import TagAudit.Proofs.Source.Cascade

/-!
# Containers embedded in a script

Published scripts assign the container to `data` and have any code in front of it and behind it.

* `assigned_of_firstSite`: a balanced span that is assigned first is found. `assigned_of_append`: so
  is one that is assigned where nothing was assigned before, whatever stands around it.
* `locate_embedded`: a container in strict JSON that is assigned to `data` is located, and the
  document depends on its value only.
-/

namespace TagAudit.Source

theorem spanAt_of_balanced {limits : Limits} {s : Text} (hbalanced : Balanced s)
    (hwindow : s.length ≤ limits.window) (after : Text) : SpanAt limits (s ++ after) s :=
  ⟨List.prefix_take_iff.mpr ⟨List.prefix_append s after, hwindow⟩, hbalanced⟩

/-- The span that is assigned first. -/
theorem assigned_of_firstSite {limits : Limits} {reads : Text → Data → Prop} {head : List Piece}
    {text before lead s after : Text} (hsite : FirstSite head text before lead (s ++ after))
    (hbalanced : Balanced s) (hwindow : s.length ≤ limits.window) {v : Data}
    {members : Members Data} (hreads : reads s v) (haccepts : Accepts v members) :
    Assigned limits reads head text members :=
  ⟨before, lead, s ++ after, s, v, hsite, spanAt_of_balanced hbalanced hwindow after, hreads,
    haccepts⟩

/-- The span that is assigned first, in any text around it. -/
theorem assigned_of_append {limits : Limits} {reads : Text → Data → Prop} {c : CodePoint}
    {head : List Piece} (honce : beginsOnce c head = true) (hbrace : c ≠ '\x7b')
    {before lead s : Text} (hbefore : (sitePattern head).search? before = none)
    (hlead : Spells head lead) (hbalanced : Balanced s) (hwindow : s.length ≤ limits.window)
    {v : Data} {members : Members Data} (hreads : reads s v) (haccepts : Accepts v members)
    (after : Text) :
    Assigned limits reads head (before ++ (lead ++ (s ++ after))) members := by
  have hopen : (s ++ after).head? = some ('\x7b' : CodePoint) := by
    obtain ⟨t, -, rfl⟩ := hbalanced
    rfl
  have hsite : FirstSite head (before ++ (lead ++ (s ++ after))) before lead (s ++ after) :=
    .of_append honce hbrace (search?_eq_none_iff.mp hbefore) hlead hopen
  exact assigned_of_firstSite hsite hbalanced hwindow hreads haccepts

/-- **An embedded container** is located whatever surrounds it: strict JSON for an object, assigned
to `data` with any blanks, where no object was assigned to `data` before. -/
theorem locate_embedded {limits : Limits} {before lead s : Text} {v : Data} {members : Members Data}
    (hbefore : varDataPattern.search? before = none) (hlead : Spells varDataHead lead)
    (hread : Json.read s = .ok v) (hopen : s.head? = some ('\x7b' : CodePoint))
    (hclose : s.getLast? = some ('\x7d' : CodePoint)) (hwindow : s.length ≤ limits.window)
    (hunwrap : unwrapResource v = .object members)
    (hkey : ∃ key ∈ containerKeys, key ∈ members.keys) (after id : Text) :
    locate limits (before ++ (lead ++ (s ++ after))) id =
      Document.ofMembers members (some "var_data_assignment") := by
  have honce : beginsOnce 'v' varDataHead = true := rfl
  have hbalanced : Balanced s := Json.balanced_of_read hread hopen hclose
  have hfinds : Strategy.varData.Finds limits (before ++ (lead ++ (s ++ after))) id members :=
    assigned_of_append honce (by decide) hbefore hlead hbalanced hwindow
      (Literal.evaluate_of_read hread) ⟨hunwrap, hkey⟩ after
  -- No strategy stands in front of this one.
  refine locate_eq_of_first hfinds fun earlier hearlier => ?_
  cases hearlier

/-- A container with marks, braces and an escape in a string, behind the beginning of an assignment
and in front of another container. -/
theorem hostileScript_located :
    locate {} (("var dat=[];var\ndata;var " : Text) ++ (("var\tdata =\n" : Text) ++
      (("\x7b\"resource\": \x7b\"tags\": [\"\\\"\x7d\x7b'\"]\x7d\x7d" : Text) ++
        ("\x7d;var data=\x7b\"macros\": []\x7d" : Text)))) "GTM-1" =
      { tags := [.text "\"\x7d\x7b'"], strategy := some "var_data_assignment" } := by
  have hbefore : varDataPattern.search? "var dat=[];var\ndata;var " = none := by
    decide +kernel
  have hlead : Spells varDataHead "var\tdata =\n" :=
    .word (.blanks (b := "\t") (by decide) (by decide) (.word (.blanks (b := " ") (by decide)
      (by decide) (.word (.blanks (b := "\n") (by decide) (by decide) .nil)))))
  have hread : Json.read "\x7b\"resource\": \x7b\"tags\": [\"\\\"\x7d\x7b'\"]\x7d\x7d" =
      .ok (.object [("resource", .object [("tags", .array [.text "\"\x7d\x7b'"])])]) := by
    cbv
  exact locate_embedded hbefore hlead hread (by decide) (by decide) (by decide) rfl (by decide) _ _

end TagAudit.Source
