import FullText.Query.Builder

/-!
# What a block contributes

A block has a meaning that needs no builder: the trees that it adds to the group it
runs in, and how it ends.  This is its `contribution`, by recursion on the block
alone.  A group contributes itself when its block ends well and gave it a member, and
nothing otherwise; a failure that is not caught ends the block.

The builder reaches the same trees by way of its stack of open groups.
`Block.run_eq_contribution` says that running a block on any builder appends the
trees of its contribution to the current group, changes nothing else, and fails
exactly when the contribution does.  Blocks that replace the builder are left out:
after a step that does so there is no current group to speak of.
-/

namespace FullText

/-! ### The meaning of a block -/

/-- What a step or a block adds to the group it runs in, and how it ends. -/
structure Contribution where
  nodes : List Node
  failure : Failure

namespace Contribution

/-- A step followed by the rest of its block.  A failure that is not caught ends the
block. -/
def followedBy (step : Contribution) (caught : Bool) (rest : Contribution) : Contribution :=
  if step.failure = none ∨ caught then ⟨step.nodes ++ rest.nodes, rest.failure⟩ else step

/-- The group whose block makes the given contribution to it. -/
def grouped (connective : Connective) (body : Contribution) : Contribution :=
  match body.failure with
  | some message => ⟨[], some message⟩
  | none => ⟨if body.nodes.isEmpty then [] else [.group connective body.nodes], none⟩

/-- A group ends as its block does. -/
theorem failure_grouped (connective : Connective) (body : Contribution) :
  (body.grouped connective).failure = body.failure
  := by
  obtain ⟨nodes, _ | message⟩ := body
  · rfl
  · rfl

/-- A group that fails contributes nothing. -/
theorem nodes_grouped_of_failed {connective : Connective} {body : Contribution}
    (failed : (body.grouped connective).failure ≠ none) :
  (body.grouped connective).nodes = []
  := by
  obtain ⟨nodes, _ | message⟩ := body
  · apply (failed rfl).elim
  · rfl

end Contribution

/-- The contribution of a step that does not replace the builder. -/
def Action.contribution : Action → Contribution
  | .condition asked => ⟨[.leaf asked.predicate], none⟩
  | .predicate asked => ⟨[.leaf asked], none⟩
  | .node tree => ⟨[tree], none⟩
  | .fail message => ⟨[], some message⟩
  | .reset | .save | .restore => ⟨[], none⟩

/-- The contribution of a block. -/
def Block.contribution : Block → Contribution
  | .done => ⟨[], none⟩
  | .step action caught rest => action.contribution.followedBy caught rest.contribution
  | .group connective _ body caught rest =>
    (body.contribution.grouped connective).followedBy caught rest.contribution

/-- Whether a step keeps to the current group: it neither replaces the builder nor
copies it. -/
def Action.isPlain : Action → Bool
  | .reset | .save | .restore => false
  | _ => true

/-- Whether all steps of a block, nested ones included, are plain. -/
def Block.isPlain : Block → Bool
  | .done => true
  | .step action _ rest => action.isPlain && rest.isPlain
  | .group _ _ body _ rest => body.isPlain && rest.isPlain

/-! ### Trees appended to the current group -/

namespace Builder

/-- The builder with trees added to its current group. -/
def extend (b : Builder) (nodes : List Node) : Builder :=
  match b.opened with
  | [] => { b with root := b.root ++ nodes }
  | g :: gs => { b with opened := { g with members := g.members ++ nodes } :: gs }

@[simp]
theorem extend_nil (b : Builder) :
  b.extend [] = b
  := by
  obtain ⟨root, _ | ⟨g, gs⟩⟩ := b
  · simp [extend]
  · simp [extend]

@[simp]
theorem extend_extend (b : Builder) (ms ns : List Node) :
  (b.extend ms).extend ns = b.extend (ms ++ ns)
  := by
  obtain ⟨root, _ | ⟨g, gs⟩⟩ := b
  · simp [extend]
  · simp [extend]

/-- Appending trees opens and closes no group. -/
@[simp]
theorem length_opened_extend (b : Builder) (nodes : List Node) :
  (b.extend nodes).opened.length = b.opened.length
  := by
  obtain ⟨root, _ | ⟨g, gs⟩⟩ := b
  · rfl
  · rfl

theorem depth_extend (b : Builder) (nodes : List Node) :
  (b.extend nodes).depth = b.depth
  := by
  rw [depth, depth, length_opened_extend]

/-- Trees added after a group was opened go into that group. -/
theorem extend_enter (b : Builder) (c : Connective) (nodes : List Node) :
  (b.enter c).extend nodes = { b with opened := ⟨c, nodes⟩ :: b.opened }
  := rfl

/-- Cutting the stack to what it was before a group was opened undoes all that went
into the group. -/
theorem truncate_extend_enter (b : Builder) (c : Connective) (nodes : List Node) :
  ((b.enter c).extend nodes).truncate b.opened.length = b
  := by
  rw [extend_enter]
  simp [truncate]

/-- The end of a group attaches it to the group around it, unless it is empty. -/
theorem leave_extend_enter (b : Builder) (c : Connective) (nodes : List Node) :
  ((b.enter c).extend nodes).leave b.opened.length
    = b.extend (if nodes.isEmpty then [] else [.group c nodes])
  := by
  have hcut : ((b.enter c).extend nodes).truncate (b.opened.length + 1)
      = { b with opened := ⟨c, nodes⟩ :: b.opened } := by
    rw [extend_enter]
    simp [truncate]
  have hwhole : ∀ ns, (b.extend ns).truncate b.opened.length = b.extend ns := by
    intro ns
    simp [truncate]
  rw [leave, hcut, ← hwhole]
  congr 1
  cases nodes with
  | nil => simp [attach]
  | cons n ns => rfl

end Builder

namespace Workspace

/-- The workspace after trees were added to the current group of its builder. -/
def extend (w : Workspace) (nodes : List Node) : Workspace :=
  w.update (·.extend nodes)

@[simp]
theorem extend_nil (w : Workspace) :
  w.extend [] = w
  := by
  simp [extend, update]

@[simp]
theorem extend_extend (w : Workspace) (ms ns : List Node) :
  (w.extend ms).extend ns = w.extend (ms ++ ns)
  := by
  simp [extend, update]

end Workspace

/-! ### Running a block -/

/-- A plain step does what its contribution says. -/
theorem Action.run_eq {a : Action} (plain : a.isPlain = true) (w : Workspace) :
  a.run w = (a.contribution.failure, w.extend a.contribution.nodes)
  := by
  cases a with
  | condition asked => rfl
  | predicate asked => rfl
  | node tree => rfl
  | fail message =>
    rw [contribution, Workspace.extend_nil]
    rfl
  | reset => cases plain
  | save => cases plain
  | restore => cases plain

namespace Block

/-- How a block goes on with `rest` after a step that ended as given. -/
def resume (caught : Bool) (rest : Block) : Failure × Workspace → Failure × Workspace
  | (none, w) => rest.run w
  | (some message, w) => if caught then rest.run w else (some message, w)

/-- The effect of a group with the given block. -/
def runGroup (connective : Connective) (body : Block) (w : Workspace) : Failure × Workspace :=
  Workspace.close w.builder.opened.length (body.run (w.update (·.enter connective)))

theorem run_step (action : Action) (caught : Bool) (rest : Block) (w : Workspace) :
  (Block.step action caught rest).run w = resume caught rest (action.run w)
  := rfl

theorem run_group (c : Connective) (fallible : Bool) (body : Block) (caught : Bool)
    (rest : Block) (w : Workspace) :
  (Block.group c fallible body caught rest).run w = resume caught rest (runGroup c body w)
  := rfl

/-- After a step that did what its contribution says, a rest that does what its own
says completes the contribution of the two. -/
theorem resume_eq_followedBy {step rest : Contribution} {p : Block}
    (hrest : ∀ w, p.run w = (rest.failure, w.extend rest.nodes)) (caught : Bool)
    (w : Workspace) :
  resume caught p (step.failure, w.extend step.nodes)
    = ((step.followedBy caught rest).failure, w.extend (step.followedBy caught rest).nodes)
  := by
  obtain ⟨nodes, _ | message⟩ := step
  · simp [resume, Contribution.followedBy, hrest]
  · cases caught with
    | true => simp [resume, Contribution.followedBy, hrest]
    | false => simp [resume, Contribution.followedBy]

/-- A group whose block does what its contribution says either attaches itself or
leaves the workspace as it was. -/
theorem runGroup_eq_grouped {body : Contribution} {p : Block}
    (hbody : ∀ w, p.run w = (body.failure, w.extend body.nodes)) (c : Connective)
    (w : Workspace) :
  runGroup c p w = ((body.grouped c).failure, w.extend (body.grouped c).nodes)
  := by
  rw [runGroup, hbody]
  obtain ⟨nodes, _ | message⟩ := body
  · simp only [Contribution.grouped, Workspace.close, Workspace.extend, Workspace.update,
      Builder.leave_extend_enter]
  · rw [Contribution.grouped, Workspace.extend_nil]
    simp only [Workspace.close, Workspace.extend, Workspace.update,
      Builder.truncate_extend_enter]

/-- A block of plain steps does what its contribution says. -/
theorem run_eq {p : Block} (plain : p.isPlain = true) (w : Workspace) :
  p.run w = (p.contribution.failure, w.extend p.contribution.nodes)
  := by
  induction p generalizing w with
  | done =>
    rw [contribution, Workspace.extend_nil]
    rfl
  | step action caught rest ih =>
    obtain ⟨haction, hrest⟩ := Bool.and_eq_true_iff.mp plain
    rw [run_step, Action.run_eq haction]
    apply resume_eq_followedBy (ih hrest)
  | group c fallible body caught rest ihbody ihrest =>
    obtain ⟨hbody, hrest⟩ := Bool.and_eq_true_iff.mp plain
    rw [run_group, runGroup_eq_grouped (ihbody hbody)]
    apply resume_eq_followedBy (ihrest hrest)

/-- Running a block of plain steps on any builder appends the trees of its
contribution to the current group, leaves everything else as it was, and fails
exactly when the contribution fails.  As the block of a group, it leaves as many
groups open as it found, and if it fails, the root and all open groups as they were. -/
theorem run_eq_contribution (p : Block) (plain : p.isPlain = true) (w : Workspace) :
  p.run w = (p.contribution.failure, w.extend p.contribution.nodes) ∧
  (p.run w).2.builder.depth = w.builder.depth ∧
  ∀ c, (runGroup c p w).1 = p.contribution.failure ∧
    (runGroup c p w).2.builder.depth = w.builder.depth ∧
    ((runGroup c p w).1 ≠ none → (runGroup c p w).2 = w)
  := by
  have hrun : ∀ w, p.run w = (p.contribution.failure, w.extend p.contribution.nodes) :=
    run_eq plain
  have hdepth : ∀ nodes, (w.extend nodes).builder.depth = w.builder.depth := fun nodes =>
    Builder.depth_extend w.builder nodes
  constructor
  · apply hrun
  constructor
  · rw [hrun]
    apply hdepth
  intro c
  rw [runGroup_eq_grouped hrun]
  constructor
  · apply Contribution.failure_grouped
  constructor
  · apply hdepth
  · intro hfailed
    rw [Contribution.nodes_grouped_of_failed hfailed]
    apply Workspace.extend_nil

/-- A block in which one failure escapes from two groups and is caught, and a second one
is not. -/
def escaping : Block :=
  .step (.condition (.tag "kind" "book")) false <|
  .group .or true
    (.step (.condition (.phrase "title" "lost")) false <|
      .group .and true (.step (.predicate (.tag "kind" "map")) false <|
        .step (.fail "no such kind") false .done) false .done) true <|
  .group .or false (.step (.node (.negation (.leaf (.tag "kind" "map")))) false .done) false <|
  .group .and true (.step (.fail "no such title") false .done) false .done

/-- The trees added before the second failure stay in the open group; when the block is
that of a group, nothing stays. -/
theorem run_escaping :
  escaping.isPlain = true ∧
  escaping.run ⟨⟨[], [.empty .or]⟩, none⟩
    = (some "no such title", ⟨⟨[], [⟨.or, [.leaf (.tag "kind" "book"),
        .group .or [.negation (.leaf (.tag "kind" "map"))]]⟩]⟩, none⟩) ∧
  (runGroup .and escaping ⟨⟨[], [.empty .or]⟩, none⟩).2 = ⟨⟨[], [.empty .or]⟩, none⟩
  := by
  obtain ⟨hrun, -, hgroup⟩ := run_eq_contribution escaping rfl ⟨⟨[], [.empty .or]⟩, none⟩
  obtain ⟨hfailure, -, hkept⟩ := hgroup .and
  constructor
  · rfl
  constructor
  · apply hrun
  · apply hkept
    rw [hfailure]
    apply Option.some_ne_none

end Block

end FullText
