import FullText.Document.Results
import FullText.Proofs.Document.Verdict
import Mathlib.Data.List.Forall2

/-!
# The grammar of a reply to a search

The relations of this file say what each place of a reply may hold, and what that is
read as.  They know nothing of how a reply is gone through: `IsRow o` relates the
places of one row to a document, and the reply to a search is a count followed by
such rows.

The readers decide these relations, and refuse as unexpected what is not in them.
One lemma a reader says so, as a `Verdict`, and
`SearchResults.ofReply_decides_grammar` puts them together.
-/

namespace FullText

/-! ### What a place may hold -/

namespace Reply

/-- A reply that stands for a text. -/
inductive Spells : Reply → String → Prop where
  | status (line : String) : Spells (.status line) line
  | bulk (text : String) : Spells (.bulk text) text
  | integer (n : Int) : Spells (.integer n) (toString n)
  | blob (bytes : List UInt8) : Spells (.blob bytes) (lossyText bytes)

/-- A reply that stands for a score. -/
inductive IsScore : Reply → Binary64 → Prop where
  | integer (n : Int) : IsScore (.integer n) (.ofInt n)
  | status {line : String} {x : Binary64} (h : Binary64.read? line = some x) :
    IsScore (.status line) x
  | bulk {text : String} {x : Binary64} (h : Binary64.read? text = some x) :
    IsScore (.bulk text) x

/-- A reply that stands for a payload, or for there being none. -/
inductive IsPayload : Reply → Option String → Prop where
  | nil : IsPayload .nil none
  | text {r : Reply} {s : String} (h : r.Spells s) : IsPayload r (some s)

/-- Replies that stand for pairs, a reply for each half. -/
inductive ArePairs {α β : Type} (first : Reply → α → Prop) (second : Reply → β → Prop) :
    List Reply → List (α × β) → Prop where
  | nil : ArePairs first second [] []
  | cons {r₁ r₂ : Reply} {rest : List Reply} {a : α} {b : β} {pairs : List (α × β)}
    (h₁ : first r₁ a) (h₂ : second r₂ b) (hrest : ArePairs first second rest pairs) :
    ArePairs first second (r₁ :: r₂ :: rest) ((a, b) :: pairs)

/-- A reply that stands for the fields of a document.  A document that is gone has
none. -/
inductive AreFields : Reply → List (String × String) → Prop where
  | nil : AreFields .nil []
  | array {items : List Reply} {fields : List (String × String)}
    (h : ArePairs Spells Spells items fields) : AreFields (.array items) fields

/-- The places of a cell: one if the cell is wanted, and none if not. -/
inductive IsCell {α : Type} (holds : Reply → α → Prop) (absent : α) :
    Bool → List Reply → α → Prop where
  | absent : IsCell holds absent false [] absent
  | present {r : Reply} {a : α} (h : holds r a) : IsCell holds absent true [r] a

end Reply

/-- The number of places of a row. -/
def SearchOptions.rowLength (o : SearchOptions) : Nat :=
  1 + o.withScores.toNat + o.withPayloads.toNat + (!o.noContent).toNat

/-- The places of a row, and the document that they hold. -/
inductive IsRow (o : SearchOptions) : List Reply → Document → Prop where
  | mk {r : Reply} {id : String} {score payload fields : List Reply} {x : Option Binary64}
    {p : Option String} {fs : List (String × String)} (hid : r.Spells id)
    (hscore : Reply.IsCell (fun r x => ∃ y, r.IsScore y ∧ x = some y) none o.withScores score x)
    (hpayload : Reply.IsCell Reply.IsPayload none o.withPayloads payload p)
    (hfields : Reply.IsCell Reply.AreFields [] (!o.noContent) fields fs) :
    IsRow o (r :: (score ++ (payload ++ fields))) ⟨id, x, p, fs⟩

/-- A cell has one place or none. -/
theorem Reply.IsCell.length_eq {α : Type} {holds : Reply → α → Prop} {absent a : α}
    {wanted : Bool} {cell : List Reply} (h : IsCell holds absent wanted cell a) :
  cell.length = wanted.toNat
  := by
  cases h with
  | absent => rfl
  | present _ => rfl

/-- All rows of a reply have the same length. -/
theorem IsRow.length_eq {o : SearchOptions} {row : List Reply} {d : Document}
    (h : IsRow o row d) :
  row.length = o.rowLength
  := by
  obtain ⟨_, hscore, hpayload, hfields⟩ := h
  simp only [List.length_cons, List.length_append, hscore.length_eq, hpayload.length_eq,
    hfields.length_eq, SearchOptions.rowLength]
  omega

/-! ### What the readers decide -/

theorem Reply.spells_iff (r : Reply) (s : String) :
  r.Spells s ↔ r.asText? = some s
  := by
  constructor
  · intro h
    cases h with
    | _ => rfl
  · intro h
    cases r with
    | nil => cases h
    | array items => cases h
    | integer n =>
      cases h
      apply Spells.integer
    | status line =>
      cases h
      apply Spells.status
    | bulk text =>
      cases h
      apply Spells.bulk
    | blob bytes =>
      cases h
      apply Spells.blob

theorem verdict_readText (expected : Expected) (r : Reply) :
  Verdict (readText expected r) r.Spells
  := by
  have helim : readText expected r =
    r.asText?.elim (.error (.unexpectedReply expected (.reply r))) .ok := by
    rw [readText]
    cases r.asText? with
    | none => rfl
    | some s => rfl
  rw [helim]
  apply Verdict.elim r.spells_iff

theorem verdict_readScore (r : Reply) :
  Verdict (readScore r) r.IsScore
  := by
  have helim (s : String) (hs : r = .bulk s ∨ r = .status s) : readScore r =
    (Binary64.read? s).elim (.error (.unexpectedReply .numericScore (.reply r))) .ok := by
    rcases hs with rfl | rfl
    all_goals
      rw [readScore]
      cases Binary64.read? s with
      | none => rfl
      | some x => rfl
  cases r with
  | integer n =>
    apply Verdict.ok
    intro y
    constructor
    · rintro ⟨⟩
      rfl
    · rintro rfl
      apply Reply.IsScore.integer
  | bulk s =>
    rw [helim s (.inl rfl)]
    apply Verdict.elim
    intro x
    constructor
    · rintro ⟨⟩
      assumption
    · apply Reply.IsScore.bulk
  | status s =>
    rw [helim s (.inr rfl)]
    apply Verdict.elim
    intro x
    constructor
    · rintro ⟨⟩
      assumption
    · apply Reply.IsScore.status
  | _ =>
    apply Verdict.unexpected
    rintro y ⟨⟩

theorem verdict_readPayload (r : Reply) :
  Verdict (readPayload r) r.IsPayload
  := by
  have hsome (hnil : r ≠ .nil) :
    Verdict ((readText .documentPayload r).map some) r.IsPayload
    := by
    apply ((verdict_readText .documentPayload r).map some).congr
    intro p
    constructor
    · rintro (_ | hs)
      · apply (hnil rfl).elim
      · exact ⟨_, hs, rfl⟩
    · rintro ⟨s, hs, rfl⟩
      apply Reply.IsPayload.text hs
  cases r with
  | nil =>
    apply Verdict.ok
    intro p
    constructor
    · rintro (_ | ⟨⟨⟩⟩)
      rfl
    · rintro rfl
      apply Reply.IsPayload.nil
  | _ => apply hsome nofun

/-- Pairs take an even number of places. -/
theorem Reply.ArePairs.length_mod_two {α β : Type} {first : Reply → α → Prop}
    {second : Reply → β → Prop} {items : List Reply} {pairs : List (α × β)}
    (h : ArePairs first second items pairs) :
  items.length % 2 = 0
  := by
  induction h with
  | nil => rfl
  | cons _ _ _ ih =>
    simp only [List.length_cons]
    omega

theorem verdict_readPairs {α β : Type} {first : Reply → Except SearchError α}
    {second : Reply → Except SearchError β} {P : Reply → α → Prop} {Q : Reply → β → Prop}
    (hfirst : ∀ r, Verdict (first r) (P r)) (hsecond : ∀ r, Verdict (second r) (Q r)) :
    ∀ items : List Reply, items.length % 2 = 0 →
  Verdict (readPairs first second items) (Reply.ArePairs P Q items)
  | [], _ => by
    apply Verdict.ok
    intro pairs
    constructor
    · rintro ⟨⟩
      rfl
    · rintro rfl
      apply Reply.ArePairs.nil
  | [_], h => by cases h
  | r₁ :: r₂ :: rest, h => by
    have hrest : rest.length % 2 = 0 := by
      simp only [List.length_cons] at h
      omega
    have hbind : readPairs first second (r₁ :: r₂ :: rest) =
      (first r₁).bind fun a => (second r₂).bind fun b =>
        (readPairs first second rest).map ((a, b) :: ·) := by
      rw [readPairs]
      rfl
    rw [hbind]
    apply ((hfirst r₁).bind fun a _ => (hsecond r₂).bind fun b _ =>
      (verdict_readPairs hfirst hsecond rest hrest).map ((a, b) :: ·)).congr
    intro pairs
    constructor
    · rintro (_ | ⟨h₁, h₂, hpairs⟩)
      exact ⟨_, h₁, _, h₂, _, hpairs, rfl⟩
    · rintro ⟨a, h₁, b, h₂, pairs, hpairs, rfl⟩
      apply Reply.ArePairs.cons h₁ h₂ hpairs

theorem verdict_readContent (r : Reply) :
  Verdict (readContent r) r.AreFields
  := by
  cases r with
  | array items =>
    simp only [readContent, readFields]
    split
    · rename_i heven
      apply (verdict_readPairs (verdict_readText _) (verdict_readText _) items heven).congr
      intro fields
      constructor
      · rintro ⟨⟩
        assumption
      · apply Reply.AreFields.array
    · rename_i hodd
      apply Verdict.unexpected
      rintro fields ⟨⟩
      rename_i h
      apply hodd h.length_mod_two
  | nil =>
    apply Verdict.ok
    intro fields
    constructor
    · rintro ⟨⟩
      rfl
    · rintro rfl
      apply Reply.AreFields.nil
  | _ =>
    apply Verdict.unexpected
    rintro fields ⟨⟩

/-! ### Rows -/

theorem verdict_readCell {α : Type} (wanted : Bool) (absent : α) (expected : Expected)
    {read : Reply → Except SearchError α} {holds : Reply → α → Prop}
    (hread : ∀ r, Verdict (read r) (holds r)) (items : List Reply) :
  Verdict (readCell wanted absent expected read items) fun (a, rest) =>
    ∃ cell, items = cell ++ rest ∧ Reply.IsCell holds absent wanted cell a
  := by
  cases wanted with
  | false =>
    apply Verdict.ok
    rintro ⟨a, rest⟩
    constructor
    · rintro ⟨_, rfl, ⟨⟩⟩
      rfl
    · rintro ⟨⟩
      exact ⟨[], rfl, .absent⟩
  | true =>
    cases items with
    | nil =>
      apply Verdict.unexpected
      rintro ⟨a, rest⟩ ⟨_, hitems, ⟨⟩⟩
      cases hitems
    | cons r rest =>
      apply ((hread r).map fun a => (a, rest)).congr
      rintro ⟨a, rest'⟩
      constructor
      · rintro ⟨_, hitems, ⟨⟩⟩
        cases hitems
        exact ⟨a, ‹_›, rfl⟩
      · rintro ⟨a, ha, ⟨⟩⟩
        exact ⟨[r], rfl, .present ha⟩

/-- A row is read cell by cell. -/
theorem readRow_eq_bind (o : SearchOptions) (r : Reply) (items : List Reply) :
  readRow o r items =
    (readText .documentId r).bind fun id =>
    (readCell o.withScores none .documentScore (fun r => (readScore r).map some) items).bind
      fun score =>
    (readCell o.withPayloads none .documentPayload readPayload score.2).bind fun payload =>
    (readCell (!o.noContent) [] .fieldArray readContent payload.2).map fun fields =>
      (⟨id, score.1, payload.1, fields.1⟩, fields.2)
  := by
  unfold readRow
  cases readText .documentId r with
  | error e => rfl
  | ok id =>
    simp only [Except.bind]
    cases readCell o.withScores none .documentScore (fun r => (readScore r).map some) items with
    | error e => rfl
    | ok score =>
      simp only
      cases readCell o.withPayloads none .documentPayload readPayload score.2 with
      | error e => rfl
      | ok payload =>
        simp only
        cases readCell (!o.noContent) [] .fieldArray readContent payload.2 with
        | error e => rfl
        | ok fields => rfl

theorem verdict_readRow (o : SearchOptions) (r : Reply) (items : List Reply) :
  Verdict (readRow o r items) fun (d, rest) =>
    ∃ row, r :: items = row ++ rest ∧ IsRow o row d
  := by
  rw [readRow_eq_bind]
  have hscore (r : Reply) := (verdict_readScore r).map some
  apply ((verdict_readText .documentId r).bind fun id _ =>
    (verdict_readCell o.withScores none .documentScore hscore items).bind fun score _ =>
    (verdict_readCell o.withPayloads none .documentPayload verdict_readPayload score.2).bind
      fun payload _ =>
    (verdict_readCell (!o.noContent) [] .fieldArray verdict_readContent payload.2).map
      fun fields => (Document.mk id score.1 payload.1 fields.1, fields.2)).congr
  rintro ⟨d, rest⟩
  constructor
  · rintro ⟨_, hitems, hid, hscore, hpayload, hfields⟩
    cases hitems
    exact ⟨_, hid, (_, _), ⟨_, List.append_assoc .., hscore⟩,
      (_, _), ⟨_, List.append_assoc .., hpayload⟩, (_, _), ⟨_, rfl, hfields⟩, rfl⟩
  · rintro ⟨id, hid, ⟨x, items₁⟩, ⟨score, rfl, hscore⟩, ⟨p, items₂⟩, ⟨payload, rfl, hpayload⟩,
      ⟨fs, items₃⟩, ⟨fields, rfl, hfields⟩, ⟨⟩⟩
    use r :: (score ++ (payload ++ fields))
    constructor
    · simp only [List.cons_append, List.append_assoc]
    · apply IsRow.mk hid hscore hpayload hfields

/-- Rows are read one after another. -/
theorem readRows_cons (o : SearchOptions) (r : Reply) (items : List Reply) :
  readRows o (r :: items)
    = (readRow o r items).bind fun row => (readRows o row.2).map (row.1 :: ·)
  := by
  rw [readRows]
  split
  · rename_i hrow
    rw [hrow]
    rfl
  · rename_i hrow
    rw [hrow]
    rfl

/-- Reading rows decides whether they are rows, of which the reply is made up without
anything between or after them. -/
theorem verdict_readRows (o : SearchOptions) (items : List Reply) :
  Verdict (readRows o items) fun documents =>
    ∃ rows, items = rows.flatten ∧ List.Forall₂ (IsRow o) rows documents
  := by
  -- A row takes at least one place, so what is left after it is shorter.
  induction hn : items.length using Nat.strongRecOn generalizing items with
  | ind n ih =>
    cases items with
    | nil =>
      rw [readRows]
      apply Verdict.ok
      intro documents
      constructor
      · rintro ⟨rows, hitems, hrows⟩
        cases hrows with
        | nil => rfl
        | cons hrow _ =>
          cases hrow
          cases hitems
      · rintro rfl
        exact ⟨[], rfl, .nil⟩
    | cons r items =>
      rw [readRows_cons]
      have hshorter (row : Document × List Reply)
          (h : ∃ places, r :: items = places ++ row.2 ∧ IsRow o places row.1) :
        row.2.length < n
        := by
        obtain ⟨places, hitems, hrow⟩ := h
        have := congrArg List.length hitems
        have := hrow.length_eq
        simp only [List.length_cons, List.length_append, SearchOptions.rowLength] at *
        omega
      apply ((verdict_readRow o r items).bind fun row hrow =>
        (ih _ (hshorter row hrow) row.2 rfl).map (row.1 :: ·)).congr
      intro documents
      constructor
      · rintro ⟨rows, hitems, hrows⟩
        cases hrows with
        | nil => cases hitems
        | cons hrow hrows =>
          exact ⟨(_, _), ⟨_, hitems, hrow⟩, _, ⟨_, rfl, hrows⟩, rfl⟩
      · rintro ⟨⟨d, rest⟩, ⟨row, hitems, hrow⟩, ds, ⟨rows, hrest, hrows⟩, rfl⟩
        use row :: rows
        constructor
        · simp only at hrest
          rw [hitems, hrest, List.flatten_cons]
        · apply List.Forall₂.cons hrow hrows

/-! ### The whole reply -/

/-- A reply to a search, and the results that it holds. -/
def IsResults (o : SearchOptions) (reply : Reply) (results : SearchResults) : Prop :=
  ∃ (n : Int) (rows : List (List Reply)),
    reply = .array (.integer n :: rows.flatten) ∧ 0 ≤ n ∧ results.total = n.toNat ∧
      List.Forall₂ (IsRow o) rows results.documents

theorem verdict_ofReply (o : SearchOptions) (reply : Reply) :
  Verdict (SearchResults.ofReply o reply) (IsResults o reply)
  := by
  unfold SearchResults.ofReply
  split
  · rename_i n items
    split
    · rename_i hn
      apply ((verdict_readRows o items).map fun documents =>
        SearchResults.mk n.toNat documents).congr
      rintro ⟨total, documents⟩
      constructor
      · rintro ⟨_, rows, hreply, -, htotal, hrows⟩
        cases hreply
        cases htotal
        exact ⟨documents, ⟨rows, rfl, hrows⟩, rfl⟩
      · rintro ⟨documents, ⟨rows, rfl, hrows⟩, ⟨⟩⟩
        exact ⟨n, rows, rfl, hn, rfl, hrows⟩
    · rename_i hn
      apply Verdict.unexpected
      rintro results ⟨_, rows, hreply, hn', -⟩
      cases hreply
      apply hn hn'
  · rename_i hother
    apply Verdict.unexpected
    rintro results ⟨n, rows, hreply, -⟩
    cases hreply
    apply hother n rfl
  · apply Verdict.unexpected
    rintro results ⟨n, rows, ⟨⟩, -⟩
  · rename_i hother _
    apply Verdict.unexpected
    rintro results ⟨n, rows, hreply, -⟩
    apply hother _ _ hreply

/-- A reply to a search is read exactly if it is a count followed by rows, each as long
as the options say, and then it is read as the count and the documents of the rows, in
their order.  Any other reply is refused as unexpected. -/
theorem SearchResults.ofReply_decides_grammar (o : SearchOptions) (reply : Reply) :
  (∀ results, ofReply o reply = .ok results ↔
    ∃ (n : Int) (rows : List (List Reply)),
      reply = .array (.integer n :: rows.flatten) ∧ 0 ≤ n ∧ results.total = n.toNat ∧
        (∀ row ∈ rows, row.length = o.rowLength) ∧
        List.Forall₂ (IsRow o) rows results.documents) ∧
  ((∃ results, ofReply o reply = .ok results) ∨
    ∃ expected actual, ofReply o reply = .error (.unexpectedReply expected actual))
  := by
  constructor
  · intro results
    rw [(verdict_ofReply o reply).eq_ok_iff]
    constructor
    · rintro ⟨n, rows, hreply, hn, htotal, hrows⟩
      use n, rows, hreply, hn, htotal
      apply (List.forall₂_and_left rows results.documents).mp
      apply hrows.imp
      intro row d hrow
      exact ⟨hrow.length_eq, hrow⟩
    · rintro ⟨n, rows, hreply, hn, htotal, -, hrows⟩
      exact ⟨n, rows, hreply, hn, htotal, hrows⟩
  · apply (verdict_ofReply o reply).ok_or_unexpected

end FullText
