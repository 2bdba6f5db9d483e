import FullText.Proofs.Query.Contribution
import FullText.Query.Request

/-!
# Groups without members

A block may replace its builder in the middle of a group: by a new one, or by a copy that was
saved when other groups were open.  The end of the group then finds a stack that is not the one
it left, and may close a group that it did not open, or none.

Two things hold nevertheless.  A group never leaves more groups open than it found.  And no group
without members is ever attached, neither in the builder nor in the saved copy, at any of the
`Block.moments` of a run, if none comes with a tree that the block adds (`Block.moments_filled`).
So the query that is built asks for something in each of its groups, and it is `*` only if
nothing was added to its root (`Block.run_filled`).
-/

namespace FullText

/-! ### Trees without empty groups -/

/-- No group in the tree is empty. -/
inductive Node.Filled : Node → Prop where
  | leaf (p : Predicate) : Filled (.leaf p)
  | group {c : Connective} {members : List Node} (nonempty : members ≠ [])
    (filled : ∀ n ∈ members, n.Filled) : Filled (.group c members)
  | negation {n : Node} (filled : n.Filled) : Filled (.negation n)

/-- All trees attached to the root or to an open group are filled. -/
structure Builder.Filled (b : Builder) : Prop where
  root : ∀ n ∈ b.root, n.Filled
  opened : ∀ g ∈ b.opened, ∀ n ∈ g.members, n.Filled

/-- The builder is filled, and so is the saved copy if there is one. -/
structure Workspace.Filled (w : Workspace) : Prop where
  builder : w.builder.Filled
  saved : ∀ b ∈ w.saved, b.Filled

namespace Builder

variable {b : Builder}

theorem filled_new :
  Builder.new.Filled
  := ⟨List.forall_mem_nil _, List.forall_mem_nil _⟩

theorem Filled.push (h : b.Filled) {n : Node} (hn : n.Filled) :
  (b.push n).Filled
  := by
  obtain ⟨root, _ | ⟨g, gs⟩⟩ := b
  · refine ⟨?_, h.opened⟩
    intro m hm
    obtain hm | hm := List.mem_append.mp hm
    · exact h.root m hm
    · rwa [List.mem_singleton.mp hm]
  · obtain ⟨hg, hgs⟩ := List.forall_mem_cons.mp h.opened
    refine ⟨h.root, List.forall_mem_cons.mpr ⟨?_, hgs⟩⟩
    intro m hm
    obtain hm | hm := List.mem_append.mp hm
    · exact hg m hm
    · rwa [List.mem_singleton.mp hm]

/-- Open groups may be dropped. -/
theorem Filled.of_subset (h : b.Filled) {opened : List Group} (hsub : opened ⊆ b.opened) :
  Filled { b with opened }
  := ⟨h.root, fun g hg => h.opened g (hsub hg)⟩

theorem Filled.truncate (h : b.Filled) (d : Nat) :
  (b.truncate d).Filled
  := h.of_subset (List.drop_subset _ _)

theorem Filled.enter (h : b.Filled) (c : Connective) :
  (b.enter c).Filled
  := ⟨h.root, List.forall_mem_cons.mpr ⟨List.forall_mem_nil _, h.opened⟩⟩

/-- Whichever group is closed, it is attached only if it has members. -/
theorem Filled.attach (h : b.Filled) :
  b.attach.Filled
  := by
  obtain ⟨root, _ | ⟨g, gs⟩⟩ := b
  · exact h
  · obtain ⟨hg, hgs⟩ := List.forall_mem_cons.mp h.opened
    have hrest : Filled ⟨root, gs⟩ := ⟨h.root, hgs⟩
    simp only [Builder.attach]
    split
    · exact hrest
    · rename_i hmembers
      apply hrest.push
      apply Node.Filled.group (mt List.isEmpty_iff.mpr hmembers) hg

/-- What the end of a group entered at `d` open groups makes of the builder, step by step: the
groups inside it are dropped, it is taken off the stack, attached to the group around it, and
what is still open above that is dropped. -/
def leaving (b : Builder) (d : Nat) : List Builder :=
  let cut := b.truncate (d + 1)
  [cut, { cut with opened := cut.opened.tail }, cut.attach, b.leave d]

theorem Filled.leaving (h : b.Filled) (d : Nat) :
  ∀ b' ∈ b.leaving d, b'.Filled
  := by
  have hcut := h.truncate (d + 1)
  intro b' hb'
  simp only [Builder.leaving, List.mem_cons, List.not_mem_nil, or_false] at hb'
  obtain rfl | rfl | rfl | rfl := hb'
  · exact hcut
  · apply hcut.of_subset fun _ => List.mem_of_mem_tail
  · exact hcut.attach
  · exact hcut.attach.truncate d

theorem length_opened_truncate_le (b : Builder) (d : Nat) :
  (b.truncate d).opened.length ≤ d
  := by
  rw [truncate, List.length_drop]
  omega

end Builder

/-- The tree that a step adds as it is. -/
def Action.tree? : Action → Option Node
  | .node n => some n
  | _ => none

/-- A step adds nothing that is not filled, unless it is given it, whatever it replaces the builder
with. -/
theorem Workspace.Filled.run {w : Workspace} (h : w.Filled) {a : Action}
    (hgiven : ∀ n ∈ a.tree?, n.Filled) :
  (a.run w).2.Filled
  := by
  cases a with
  | condition asked => exact ⟨h.builder.push (.leaf _), h.saved⟩
  | predicate asked => exact ⟨h.builder.push (.leaf _), h.saved⟩
  | node n => exact ⟨h.builder.push (hgiven n rfl), h.saved⟩
  | fail message => exact h
  | reset => exact ⟨Builder.filled_new, h.saved⟩
  | save =>
    refine ⟨h.builder, ?_⟩
    intro b hb
    cases hb
    exact h.builder
  | restore =>
    refine ⟨?_, h.saved⟩
    obtain ⟨builder, _ | copy⟩ := w
    · exact h.builder
    · exact h.saved copy rfl

/-! ### The moments of a run -/

namespace Workspace

/-- What the end of a group makes of the workspace, step by step. -/
def closing (d : Nat) : Failure × Workspace → List Workspace
  | (none, w) => (w.builder.leaving d).map fun b => { w with builder := b }
  | (some _, w) => [w.update (·.truncate d)]

theorem close_mem_closing (d : Nat) (ended : Failure × Workspace) :
  (close d ended).2 ∈ closing d ended
  := by
  obtain ⟨_ | message, w⟩ := ended
  · apply List.mem_map_of_mem
    simp [Builder.leaving]
  · apply List.mem_singleton_self

theorem Filled.closing {ended : Failure × Workspace} (h : ended.2.Filled) (d : Nat) :
  ∀ w ∈ Workspace.closing d ended, w.Filled
  := by
  obtain ⟨_ | message, w⟩ := ended
  · intro w' hw'
    obtain ⟨b, hb, rfl⟩ := List.mem_map.mp hw'
    exact ⟨h.builder.leaving d b hb, h.saved⟩
  · intro w' hw'
    rw [List.mem_singleton.mp hw']
    exact ⟨h.builder.truncate d, h.saved⟩

end Workspace

namespace Block

/-- The workspaces that a run goes through, in their order. -/
def moments : Block → Workspace → List Workspace
  | .done, w => [w]
  | .step action caught rest, w =>
    let (failure, after) := action.run w
    w :: (if failure.isNone || caught then rest.moments after else [after])
  | .group connective _ body caught rest, w =>
    let inner := w.update (·.enter connective)
    let ended := body.run inner
    let (failure, after) := Workspace.close w.builder.opened.length ended
    w :: body.moments inner ++ Workspace.closing w.builder.opened.length ended ++
      (if failure.isNone || caught then rest.moments after else [])

/-- The tree that an executed step adds as it is. -/
def Event.tree? (e : Event) : Option Node :=
  match e.executed with
  | .action a => a.tree?
  | .group .. => none

variable (p : Block) (w : Workspace)

theorem moments_step (action : Action) (caught : Bool) (rest : Block) :
  (Block.step action caught rest).moments w
    = w :: if (action.run w).1.isNone || caught then rest.moments (action.run w).2
      else [(action.run w).2]
  := rfl

theorem moments_group (c : Connective) (fallible : Bool) (body : Block) (caught : Bool)
    (rest : Block) :
  (Block.group c fallible body caught rest).moments w
    = w :: body.moments (w.update (·.enter c)) ++
      Workspace.closing w.builder.opened.length (body.run (w.update (·.enter c))) ++
      if (runGroup c body w).1.isNone || caught then rest.moments (runGroup c body w).2 else []
  := rfl

/-- After a step that ended as given, a block goes on or ends. -/
theorem resume_eq (caught : Bool) (rest : Block) (ended : Failure × Workspace) :
  resume caught rest ended = if ended.1.isNone || caught then rest.run ended.2 else ended
  := by
  obtain ⟨_ | message, w⟩ := ended
  · rfl
  · rfl

theorem mem_moments_self :
  w ∈ p.moments w
  := by
  cases p with
  | done => apply List.mem_singleton_self
  | step action caught rest => apply List.mem_cons_self
  | group c fallible body caught rest =>
    rw [moments_group, List.cons_append, List.cons_append]
    apply List.mem_cons_self

/-- A run ends at one of its moments. -/
theorem mem_moments_run :
  (p.run w).2 ∈ p.moments w
  := by
  induction p generalizing w with
  | done => apply List.mem_singleton_self
  | step action caught rest ih =>
    rw [run_step, resume_eq, moments_step]
    apply List.mem_cons_of_mem
    split
    · apply ih
    · apply List.mem_singleton_self
  | group c fallible body caught rest ihbody ihrest =>
    rw [run_group, resume_eq, moments_group]
    split
    · apply List.mem_append_right
      apply ihrest
    · apply List.mem_append_left
      apply List.mem_append_right
      apply Workspace.close_mem_closing

theorem trace_step (action : Action) (caught : Bool) (rest : Block) :
  (Block.step action caught rest).trace w
    = ⟨.action action, (action.run w).1, (action.run w).2.builder⟩ ::
      if (action.run w).1.isNone || caught then rest.trace (action.run w).2 else []
  := rfl

theorem trace_group (c : Connective) (fallible : Bool) (body : Block) (caught : Bool)
    (rest : Block) :
  (Block.group c fallible body caught rest).trace w
    = body.trace (w.update (·.enter c)) ++
      ⟨.group c fallible, (runGroup c body w).1, (runGroup c body w).2.builder⟩ ::
      if (runGroup c body w).1.isNone || caught then rest.trace (runGroup c body w).2 else []
  := rfl

/-- Every step that is executed ends at one of the moments. -/
theorem exists_moment_of_mem_trace {e : Event} (h : e ∈ p.trace w) :
  ∃ w' ∈ p.moments w, w'.builder = e.builder
  := by
  induction p generalizing w with
  | done => cases h
  | step action caught rest ih =>
    rw [trace_step] at h
    rw [moments_step]
    obtain rfl | h := List.mem_cons.mp h
    · refine ⟨(action.run w).2, List.mem_cons_of_mem _ ?_, rfl⟩
      split
      · apply mem_moments_self
      · apply List.mem_singleton_self
    · split at h
      · rename_i hgoes
        obtain ⟨w', hw', heq⟩ := ih _ h
        rw [if_pos hgoes]
        exact ⟨w', List.mem_cons_of_mem _ hw', heq⟩
      · cases h
  | group c fallible body caught rest ihbody ihrest =>
    rw [trace_group] at h
    rw [moments_group]
    obtain h | h := List.mem_append.mp h
    · obtain ⟨w', hw', heq⟩ := ihbody _ h
      refine ⟨w', ?_, heq⟩
      exact List.mem_append_left _ (List.mem_append_left _ (List.mem_cons_of_mem _ hw'))
    obtain rfl | h := List.mem_cons.mp h
    · refine ⟨(runGroup c body w).2, ?_, rfl⟩
      apply List.mem_append_left
      apply List.mem_append_right
      apply Workspace.close_mem_closing
    · split at h
      · rename_i hgoes
        obtain ⟨w', hw', heq⟩ := ihrest _ h
        rw [if_pos hgoes]
        exact ⟨w', List.mem_append_right _ hw', heq⟩
      · cases h

variable {p w}

/-- Whatever replaces the builder and whatever fails, nothing that is not filled is attached at
any moment. -/
theorem moments_filled (hw : w.Filled) (hgiven : ∀ e ∈ p.trace w, ∀ n ∈ e.tree?, n.Filled) :
  ∀ w' ∈ p.moments w, w'.Filled
  := by
  induction p generalizing w with
  | done =>
    intro w' hw'
    rwa [List.mem_singleton.mp hw']
  | step action caught rest ih =>
    rw [trace_step, List.forall_mem_cons] at hgiven
    rw [moments_step, List.forall_mem_cons]
    have hafter : (action.run w).2.Filled := hw.run hgiven.1
    refine ⟨hw, ?_⟩
    split
    · rename_i hgoes
      rw [if_pos hgoes] at hgiven
      apply ih hafter hgiven.2
    · intro w' hw'
      rwa [List.mem_singleton.mp hw']
  | group c fallible body caught rest ihbody ihrest =>
    rw [trace_group, List.forall_mem_append, List.forall_mem_cons] at hgiven
    rw [moments_group, List.forall_mem_append, List.forall_mem_append, List.forall_mem_cons]
    have hbody := ihbody (w := w.update (·.enter c)) ⟨hw.builder.enter c, hw.saved⟩ hgiven.1
    have hclosing := Workspace.Filled.closing (hbody _ (mem_moments_run body _))
      w.builder.opened.length
    refine ⟨⟨⟨hw, hbody⟩, hclosing⟩, ?_⟩
    split
    · rename_i hgoes
      rw [if_pos hgoes] at hgiven
      apply ihrest _ hgiven.2.2
      apply hclosing
      apply Workspace.close_mem_closing
    · apply List.forall_mem_nil

/-- A group leaves no more groups open than it found. -/
theorem depth_runGroup_le (c : Connective) (p : Block) (w : Workspace) :
  (runGroup c p w).2.builder.depth ≤ w.builder.depth
  := by
  rw [runGroup, Builder.depth, Builder.depth]
  apply Nat.succ_le_succ
  obtain ⟨_ | message, w'⟩ := p.run (w.update (·.enter c))
  · apply Builder.length_opened_truncate_le
  · apply Builder.length_opened_truncate_le

end Block

/-! ### The query that is built -/

namespace Query

/-- The query of a builder is `*` only if its root is empty. -/
theorem text_ofBuilder_eq_iff (b : Builder) :
  (ofBuilder b).text = "*" ↔ b.root = []
  := by
  obtain ⟨root, opened⟩ := b
  cases root with
  | nil => exact iff_of_true rfl rfl
  | cons n root =>
    apply iff_of_false _ (List.cons_ne_nil n root)
    intro h
    -- The text of a group with members begins with a parenthesis.
    have hchars : (ofBuilder ⟨n :: root, opened⟩).baseChars = ['*'] := String.ofList_injective h
    cases hchars

/-- The query that is built is that of the builder at the end of the run. -/
theorem build_eq (p : Block) :
  build p = (p.run {}).1.elim (.ok (ofBuilder (p.run {}).2.builder)) .error
  := by
  rw [build]
  obtain ⟨_ | message, w⟩ := p.run {}
  · rfl
  · rfl

end Query

namespace Block

/-- Whatever builder a block is run on, and whatever replaces it meanwhile: as the block of a
group, it leaves no more groups open than there were, whether it fails or not.  If no tree that it
is given contains an empty group, then none is attached to the builder or to the saved copy at any
moment, of which there is one at the end of each step.  The query of the builder at the end, which
is the one that is built, has then no empty group below its root, and in any case it is `*` only if
its root is empty. -/
theorem run_filled (p : Block) (w : Workspace) :
  (∀ c, (runGroup c p w).2.builder.depth ≤ w.builder.depth) ∧
  (p.run w).2 ∈ p.moments w ∧
  (∀ e ∈ p.trace w, ∃ w' ∈ p.moments w, w'.builder = e.builder) ∧
  (w.Filled → (∀ e ∈ p.trace w, ∀ n ∈ e.tree?, n.Filled) →
    (∀ w' ∈ p.moments w, w'.Filled) ∧
    ∀ n ∈ (Query.ofBuilder (p.run w).2.builder).root, n.Filled) ∧
  ((Query.ofBuilder (p.run w).2.builder).text = "*" ↔
    (Query.ofBuilder (p.run w).2.builder).root = []) ∧
  Query.build p = (p.run {}).1.elim (.ok (Query.ofBuilder (p.run {}).2.builder)) .error
  := by
  refine ⟨fun c => depth_runGroup_le c p w, mem_moments_run p w,
    fun e => exists_moment_of_mem_trace p w, ?_, Query.text_ofBuilder_eq_iff _, Query.build_eq p⟩
  intro hw hgiven
  have hmoments := moments_filled hw hgiven
  exact ⟨hmoments, (hmoments _ (mem_moments_run p w)).builder.root⟩

/-- A block that saves its builder with two groups open, and restores it in a group that has
none around it. -/
def restoring : Block :=
  .group .or true
    (.step (.condition (.tag "kind" "book")) false <|
      .group .and true (.step .save false <| .step (.fail "no title") false .done) true .done)
    false <|
  .group .or true (.step .reset false .done) true <|
  .group .and false
    (.step .restore false <| .step (.node (.negation (.leaf (.tag "kind" "map")))) false .done)
    false .done

/-- The group that was open around the copy is closed in place of the one that is left, and the
tree that was added to the innermost group is lost. -/
theorem restoring_filled :
  Workspace.Filled {} ∧ (∀ e ∈ restoring.trace {}, ∀ n ∈ e.tree?, n.Filled) ∧
  (restoring.run {}).2.builder = ⟨[.group .or [.leaf (.tag "kind" "book")]], []⟩ ∧
  (∀ n ∈ (Query.ofBuilder (restoring.run {}).2.builder).root, n.Filled) ∧
  (Query.ofBuilder (restoring.run {}).2.builder).text ≠ "*"
  := by
  have hstart : Workspace.Filled {} := ⟨Builder.filled_new, fun _ => nofun⟩
  have htrees :
    (restoring.trace {}).filterMap Event.tree? = [.negation (.leaf (.tag "kind" "map"))]
    := rfl
  have hgiven : ∀ e ∈ restoring.trace {}, ∀ n ∈ e.tree?, n.Filled := by
    intro e he n hn
    have hmem := List.mem_filterMap.mpr ⟨e, he, hn⟩
    rw [htrees, List.mem_singleton] at hmem
    rw [hmem]
    exact .negation (.leaf _)
  obtain ⟨-, -, -, hfilled, htext, -⟩ := run_filled restoring {}
  refine ⟨hstart, hgiven, rfl, (hfilled hstart hgiven).2, ?_⟩
  rw [ne_eq, htext]
  apply List.cons_ne_nil

end Block

end FullText
