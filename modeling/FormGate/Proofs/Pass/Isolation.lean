import FormGate.Proofs.Pass.Confined
import FormGate.Proofs.Pass.Returns

/-!
# Isolation of forms

A pass over a form knows and touches nothing of the page but the form. Over the same form in two pages,
however different these are around it, it comes to the same outcome, reports the same, leaves the same
form, and leaves all that is around the form as it was (`Setup.isolated`). It does not matter whether
names and identifiers in the form stand elsewhere in the page too. What was left is a form in its page
again (`Setup.hosts_of_leaves`), over which the next pass returns.
-/

namespace FormGate

open Markup Document Pass

theorem Markup.Node.label_mem_labels {n m : Node} (h : m ∈ n.nodes) : m.label ∈ n.labels := by
  rcases List.mem_cons.1 h with rfl | below
  · exact List.mem_cons_self
  · exact List.mem_cons_of_mem _ (Forest.labels_subset_of_mem_nodes below List.mem_cons_self)

/-- A world whose page is well formed, with one outermost element, and has a form in it. -/
structure World.Hosts (w : World) (d : Document) (form : Element) (n : Node) : Prop where
  page : w.page = some d
  wellFormed : d.WellFormed
  rooted : ∃ root, d.tree.tops = [root]
  found : d.tree.find? form = some n

/-- Every element of a page that was read stands in a page like that. -/
theorem World.hosts_ofText {text : String} {d : Document} (read : Document.ofText text = .ok d)
    {w : World} (page : w.page = some d) {form : Element} {n : Node}
    (found : d.tree.find? form = some n) : w.Hosts d form n where
  page := page
  wellFormed := wellFormed_ofText read
  rooted := by
    obtain ⟨l, t, c, tree, -⟩ := root_of_ofText read
    exact ⟨_, congrArg Forest.tops tree⟩
  found := found

/-- A page before and after a form in it became another one. Around the form everything is as it was;
what was taken out of the form may still be at hand. -/
structure Document.Became (d : Document) (form : Element) (n' : Node) (d' : Document) : Prop where
  tree : d'.tree = d.tree.replace form n'
  form : n'.label.id = form
  loose : ∃ gone, d'.loose = d.loose.append gone
  log : d.SameLog d'

namespace Setup

variable {s : Setup}

/-- A form over which a pass returns: its own element is no field, and in it elements are sound and
namespaces can be read. -/
structure Passable (s : Setup) (n : Node) : Prop where
  plain : s.isField n.label = false
  sound : ∀ m ∈ n.nodes, s.Sound m
  legible : ∀ m ∈ n.nodes, s.Legible m

instance (n : Node) : Decidable (s.Passable n) :=
  decidable_of_iff
    (s.isField n.label = false ∧ (∀ m ∈ n.nodes, s.Sound m) ∧ ∀ m ∈ n.nodes, s.Legible m)
    ⟨fun h => ⟨h.1, h.2.1, h.2.2⟩, fun h => ⟨h.plain, h.sound, h.legible⟩⟩

/-- A form as it was read is passable if it is no field and shows no feedback yet, text areas in it
hold no elements, and selections no fields. -/
theorem passable_ofText {text : String} {d : Document} (read : Document.ofText text = .ok d)
    {form : Element} {n : Node} (found : d.tree.find? form = some n) (plain : s.isField n.label = false)
    (unshown : ∀ l ∈ n.labels, s.isFeedback l = false)
    (textareas : ∀ m ∈ n.nodes, m.label.tag.localName = "textarea" → m.children = .nil)
    (selects : ∀ m ∈ n.nodes, m.label.tag.localName = "select" →
      ∀ l ∈ m.children.labels, s.isField l = false) : s.Passable n where
  plain := plain
  sound m hm := .of_unshown (unshown m.label (Node.label_mem_labels hm)) (textareas m hm)
    (selects m hm)
  legible m hm _ := by
    obtain ⟨l, t, c, tree, spaced⟩ := root_of_ofText read
    exact spaced m.label ((Forest.labels_of_find? found).subset (Node.label_mem_labels hm))

/-- A pass over a form comes to a result, in which the fields are told by their places in the form,
reports failures, and changes nothing but the form, which is shown with its elements numbered in
document order. -/
def Leaves (s : Setup) (w : World) (d : Document) (form : Element) (n : Node)
    (r : Except Failure FormOutcome) (ts : List (Failure × Context)) (shown : Node) : Prop :=
  ∃ r' d' n',
    (World.runPass World.undisturbed (s.validateForm form)).run w =
      (r', { w with
        page := some d'
        collector := w.collector.addAll (ts.map Diagnostic.warning) }) ∧
    r'.map (FormOutcome.rename n.ids.idxOf) = r ∧ d.Became form n' d' ∧ n'.numbered = shown

/-! ## The form alone -/

section Placed

variable (n m : Node) (tail : String)

theorem labels_placed :
    ({ m.relabel n.placed with tail } : Node).labels = m.labels.map n.placed :=
  m.labels_relabel (g := n.placed)

theorem plain_placed (ls : List Label) :
    (∀ l ∈ ls.map n.placed, s.isField l = false) ↔ ∀ l ∈ ls, s.isField l = false :=
  List.forall_mem_map

theorem placed_eq_nil (f : Forest) : f.relabel n.placed = .nil ↔ f = .nil := by
  cases f with
  | nil => exact iff_of_true rfl rfl
  | cons => exact iff_of_false Forest.cons_ne_nil Forest.cons_ne_nil

theorem sound_placed : s.Sound { m.relabel n.placed with tail } ↔ s.Sound m := by
  have below : (m.relabel n.placed).children.labels = m.children.labels.map n.placed :=
    Forest.labels_relabel _
  constructor
  · rintro ⟨feedback, textarea, select⟩
    rw [labels_placed, plain_placed] at feedback
    rw [below, plain_placed] at select
    exact ⟨feedback, fun is tag => (placed_eq_nil n _).1 (textarea is tag), select⟩
  · rintro ⟨feedback, textarea, select⟩
    rw [← plain_placed n, ← labels_placed n m tail] at feedback
    rw [← plain_placed n, ← below] at select
    exact ⟨feedback, fun is tag => (placed_eq_nil n _).2 (textarea is tag), select⟩

theorem legible_placed : s.Legible { m.relabel n.placed with tail } ↔ s.Legible m :=
  imp_congr_left (or_congr_right (not_congr (placed_eq_nil n m.children)))

end Placed

theorem nodes_numbered (n : Node) :
    n.numbered.nodes = n.numbered :: n.children.nodes.map (Node.relabel n.placed) :=
  congrArg (n.numbered :: ·) (Forest.nodes_relabel n.children)

theorem passable_numbered (n : Node) : s.Passable n.numbered ↔ s.Passable n := by
  have all {P : Node → Prop} (placed : ∀ m tail, P { m.relabel n.placed with tail } ↔ P m) :
      (∀ m ∈ n.numbered.nodes, P m) ↔ ∀ m ∈ n.nodes, P m := by
    rw [nodes_numbered, Node.nodes, List.forall_mem_cons, List.forall_mem_cons, List.forall_mem_map]
    exact and_congr (placed n "") (forall₂_congr fun m _ => placed m m.tail)
  have sound := all (sound_placed (s := s) n)
  have legible := all (legible_placed (s := s) n)
  exact ⟨fun h => ⟨h.plain, sound.1 h.sound, legible.1 h.legible⟩,
    fun h => ⟨h.plain, sound.2 h.sound, legible.2 h.legible⟩⟩

section Alone

variable {n : Node}

/-- The fields of a form alone stand below it, if it is no field itself. -/
theorem exists_parent_alone (plain : s.isField n.label = false) :
    ∀ e ∈ n.asPage.carriers 0 s.config.attributes.rules, ∃ p, n.asPage.parent? e = some p := by
  intro e he
  obtain ⟨n₀, node, l, hl, field, rfl⟩ := mem_select he
  have whole : n.asPage.node? 0 = some n.numbered := by
    rw [node?, show n.asPage.tree = n.numbered.forest from rfl, Node.forest,
      Forest.find?_here n.numbered_id]
    rfl
  obtain rfl := Option.some.inj (whole.symm.trans node)
  rcases List.mem_cons.1 hl with rfl | below
  · rw [show n.numbered.label.has s.config.attributes.rules = s.isField n.label from rfl,
      plain] at field
    cases field
  · exact Forest.exists_parent (Forest.id_mem_ids below) _

theorem not_mem_carriers_alone (wf : n.asPage.Alone n.ids.length) (plain : s.isField n.label = false) :
    0 ∉ n.asPage.carriers 0 s.config.attributes.rules := by
  intro field
  obtain ⟨p, parent⟩ := exists_parent_alone plain 0 field
  exact wf.ne_zero_of_parent? parent rfl

theorem nodes_single (l : Label) (t : String) (c : Forest) :
    (Forest.cons l t c "" .nil).nodes = Node.nodes ⟨l, t, c, ""⟩ :=
  congrArg (Node.mk l t c "" :: ·) (List.append_nil c.nodes)

theorem receptive_alone (wf : n.asPage.WellFormed) (passable : s.Passable n) :
    s.Receptive n.asPage := by
  have passable := (passable_numbered n).2 passable
  have nodes : n.asPage.tree.nodes = n.numbered.nodes := nodes_single _ _ _
  exact ⟨⟨wf, nodes ▸ passable.sound⟩, nodes ▸ passable.legible⟩

theorem passable_left (distinct : s.Distinct)
    (named : '\x7b' ∉ s.config.presentation.feedbackTag.toList) (alone : n.asPage.Alone n.ids.length)
    (passable : s.Passable n) {o : FormOutcome} {d' : Document}
    (yields : (s.validateForm 0).Yields n.asPage o d') {l : Label} {t : String} {c : Forest}
    (tree : d'.tree = .cons l t c "" .nil) (id : l.id = 0) : s.Passable ⟨l, t, c, ""⟩ := by
  have receptive := receptive_alone alone.wellFormed passable
  have left := receptive_of_yields distinct named receptive yields
  have nodes : d'.tree.nodes = Node.nodes ⟨l, t, c, ""⟩ := by
    rw [tree]
    exact nodes_single l t c
  refine ⟨?_, nodes ▸ left.sound, nodes ▸ left.legible⟩
  -- a pass makes no element a field
  have carriers := (consistent_of_yields distinct receptive.toReady yields).carriers
  have found : d'.node? 0 = some ⟨l, t, c, ""⟩ := by
    rw [node?, tree, Forest.find?_here id]
    rfl
  have absent := not_mem_carriers_alone alone passable.plain
  rw [← carriers, carriers_of_node found] at absent
  by_contra field
  rw [Bool.not_eq_false] at field
  exact absent (List.mem_map.2 ⟨l, List.mem_filter.2 ⟨List.mem_cons_self, field⟩, id⟩)

theorem lt_of_outcome_alone (wf : n.asPage.WellFormed) {o : FormOutcome}
    (given : ((s.validateForm 0).on n.asPage).1 = .ok o) :
    ∀ r ∈ o.fields, r.1.element < n.ids.length := by
  have yields : (s.validateForm 0).Yields n.asPage o ((s.validateForm 0).on n.asPage).2 :=
    Prod.ext given rfl
  obtain ⟨es, d₁, asked, rest⟩ := yields_bind.1 yields
  obtain ⟨rfl, rfl⟩ := yields_carriers.1 asked
  obtain ⟨rs, d₂, turns, rest⟩ := yields_bind.1 rest
  obtain ⟨_, d₃, -, done⟩ := yields_bind.1 rest
  obtain ⟨rfl, -⟩ := yields_pure.1 done
  have fields := (s.gives_fields 0 none _).of_yields turns
  intro r hr
  have carrier : r.1.element ∈ n.asPage.carriers 0 s.config.attributes.rules :=
    fields ▸ List.mem_map_of_mem hr
  obtain ⟨n₀, node, l, hl, -, id⟩ := mem_select carrier
  rw [← id]
  exact wf.fresh l ((labels_of_node? node).subset hl)

end Alone

/-! ## The form in its page -/

section Hosted

variable {w : World} {d : Document} {form : Element} {n : Node} (hosts : w.Hosts d form n)
include hosts

/-- A pass over a form comes to what it comes to over the form alone, and leaves in the page what it
leaves of that. -/
theorem leaves_of_alone (plain : s.isField n.label = false) {root : Node}
    (after : ((s.validateForm 0).on n.asPage).2.tree.tops = [root]) :
    s.Leaves w d form n ((s.validateForm 0).on n.asPage).1 ((s.validateForm 0).told n.asPage)
      root.numbered := by
  obtain ⟨page, wf, rooted, found⟩ := hosts
  obtain ⟨S⟩ := exists_standing wf rooted found
  have alone := alone_of_form wf found
  have image := S.image_asPage wf found
  have place : (S.embedding wf found).number 0 = form := Forest.find?_id found
  have apart := not_mem_carriers_alone alone plain
  obtain ⟨result, left, told⟩ := follows_validateForm (E := S.embedding wf found) 0 alone apart
  rw [place, image] at result left told
  have run := runPass_undisturbed_eq (s.validateForm form) page
  rw [result, left, told] at run
  obtain ⟨l, t, c, tree, id⟩ := (alone.on (s.validateForm 0).run).single
  have tree : ((s.validateForm 0).on n.asPage).2.tree = .cons l t c "" .nil := tree
  rw [tree, Forest.tops, Forest.tops, List.singleton_inj] at after
  subst after
  refine ⟨_, _, (S.embedding wf found).node ⟨l, t, c, ""⟩, run, ?_, ?_,
    Embedding.numbered_node _⟩
  · cases given : ((s.validateForm 0).on n.asPage).1 with
    | error e => rfl
    | ok o =>
      -- the numbers that the page gives to the places are those of the elements there
      refine congrArg Except.ok (FormOutcome.rename_rename fun r hr => ?_)
      have lt := lt_of_outcome_alone alone.wellFormed given r hr
      rcases numberIn_cases wf found r.1.element with ⟨-, -, back⟩ | ⟨late, -⟩
      · exact back
      · exact absurd lt (Nat.not_lt.2 late)
  · refine ⟨S.tree_image wf found tree, ?_, ⟨_, rfl⟩, ⟨rfl, rfl, rfl⟩⟩
    exact (congrArg (S.embedding wf found).number id).trans place

/-- After a pass over it the form stands in the page as the pass has left it. -/
theorem hosts_of_leaves {o : FormOutcome} {ts : List (Failure × Context)} {shown : Node}
    (leaves : s.Leaves w d form n (.ok o) ts shown) : ∃ d' n',
      ((World.runPass World.undisturbed (s.validateForm form)).run w).2.Hosts d' form n' ∧
        n'.numbered = shown := by
  obtain ⟨page, wf, ⟨root, tops⟩, found⟩ := hosts
  obtain ⟨r, d', n', run, result, became, numbered⟩ := leaves
  cases r with
  | error e => cases result
  | ok o' =>
    obtain ⟨d'', page', yields⟩ := World.runPass_undisturbed page run
    obtain rfl := Option.some.inj page'
    refine ⟨d', { n' with tail := n.tail }, ⟨by rw [run], (yields.descends wf).1, ?_, ?_⟩, numbered⟩
    · rw [became.tree]
      exact Forest.exists_tops_replace tops form n'
    · rw [became.tree]
      exact Forest.find?_replace found became.form

end Hosted

/-- Form isolation. Two worlds have pages with the same form in them, over which a pass returns. Then
the passes over it come to the same outcome for the fields in their places, report the same, leave the
same form, over which a pass returns again, and change nothing else of the pages. -/
theorem isolated (distinct : s.Distinct)
    (named : '\x7b' ∉ s.config.presentation.feedbackTag.toList) {w₁ w₂ : World} {d₁ d₂ : Document}
    {form₁ form₂ : Element} {n₁ n₂ : Node} (hosts₁ : w₁.Hosts d₁ form₁ n₁)
    (hosts₂ : w₂.Hosts d₂ form₂ n₂) (same : n₂.numbered = n₁.numbered) (passable : s.Passable n₁) :
    ∃ o ts shown, s.Leaves w₁ d₁ form₁ n₁ (.ok o) ts shown ∧
      s.Leaves w₂ d₂ form₂ n₂ (.ok o) ts shown ∧ s.Passable shown := by
  have alone := alone_of_form hosts₁.wellFormed hosts₁.found
  have passable₂ : s.Passable n₂ := by
    rwa [← passable_numbered, same, passable_numbered]
  obtain ⟨o, d', yields⟩ := returns_validateForm distinct named
    (receptive_alone alone.wellFormed passable) (exists_parent_alone passable.plain)
  have given : ((s.validateForm 0).on n₁.asPage).1 = .ok o := congrArg Prod.fst yields
  have left : ((s.validateForm 0).on n₁.asPage).2 = d' := congrArg Prod.snd yields
  obtain ⟨l, t, c, tree, id⟩ := (alone.on (s.validateForm 0).run).single
  have tree : d'.tree = .cons l t c "" .nil := left ▸ tree
  have after : ((s.validateForm 0).on n₁.asPage).2.tree.tops = [⟨l, t, c, ""⟩] := by
    rw [left, tree]
    rfl
  refine ⟨o, (s.validateForm 0).told n₁.asPage, Node.numbered ⟨l, t, c, ""⟩, ?_, ?_, ?_⟩
  · rw [← given]
    exact leaves_of_alone hosts₁ passable.plain after
  · rw [← Node.asPage_congr same] at after given ⊢
    rw [← given]
    exact leaves_of_alone hosts₂ passable₂.plain after
  · rw [passable_numbered]
    exact passable_left distinct named alone passable yields tree id

/-- A field is compared with another one of the form. The same form stands alone, and in a page in
which another field of that name comes first and the name is an identifier behind the form. -/
theorem isolated_among_copies :
    let fields : Forest :=
      .cons ⟨1, .element "input", [("name", "mail"), ("value", "a"),
          ("data-validate-validation", "matches[copy]")]⟩ "" .nil ""
        (.cons ⟨2, .element "input", [("name", "copy"), ("value", "b")]⟩ "" .nil "" .nil)
    let form : Node := ⟨⟨0, .element "form", []⟩, "", fields, ""⟩
    let among : Node :=
      ⟨⟨3, .element "form", []⟩, "", fields.relabel fun l => { l with id := l.id + 3 }, "\n"⟩
    let page : Document := { tree := form.forest, fresh := 3 }
    let crowd : Document :=
      { tree := .cons ⟨0, .element "body", []⟩ ""
          (.cons ⟨1, .element "input", [("name", "copy"), ("value", "a")]⟩ "" .nil ""
            (.cons among.label among.text among.children among.tail
              (.cons ⟨2, .element "p", [("id", "copy")]⟩ "" .nil "" .nil))) "" .nil
        fresh := 6 }
    let world (d : Document) : World :=
      { page := some d, collector := { command := "check", limit := 500 } }
    ∃ o ts shown, o.valid = false ∧ Leaves {} (world page) page 0 form (.ok o) ts shown ∧
      Leaves {} (world crowd) crowd 3 among (.ok o) ts shown ∧ Passable {} shown := by
  intro fields form among page crowd world
  have stands : (world page).Hosts page 0 form := ⟨rfl, by decide, ⟨_, rfl⟩, rfl⟩
  have crowded : (world crowd).Hosts crowd 3 among := ⟨rfl, by decide, ⟨_, rfl⟩, rfl⟩
  obtain ⟨o, ts, shown, first, second, again⟩ :=
    isolated (s := {}) (by decide +kernel) (by decide) stands crowded (by decide) (by decide +kernel)
  refine ⟨o, ts, shown, ?_, first, second, again⟩
  have fails : ((World.runPass World.undisturbed (validateForm {} 0)).run (world page)).1.toOption.map
      (·.valid) = some false := by
    decide +kernel
  obtain ⟨r, d', n', run, result, -⟩ := first
  rw [run] at fails
  cases r with
  | error e => cases fails
  | ok o' =>
    cases result
    rw [FormOutcome.valid_rename]
    exact Option.some.inj fails

end Setup

end FormGate
