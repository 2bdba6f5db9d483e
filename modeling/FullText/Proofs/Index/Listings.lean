import FullText.Proofs.Document.Grammar
import FullText.Proofs.Index.Commands

/-!
# Replies that list names and values

Besides the rows of a search there are two replies that list names and values in turn: the
fields of a hash, and the attributes of an index.  A reader of such a list loses nothing
if it refuses a list whose last pair is cut, as the reader of rows does.

The two readers refuse any other list that is not one of pairs, but this one they read
without its last item.  `Operation.Lists` is what a reply holds when up to so many items
are left out at its end, and `Index.listed_iff` says that the readers decide it for one
item.  So they lose something exactly where an odd number of items is read
(`Operation.Cuts`).

A document that is stored as JSON is no such list, but one text, and has the JSON that the
text is read as (`Operation.json?_of_read_get`).
-/

namespace FullText

/-- Whether a command is answered with names and values in turn. -/
def Call.isListing : Call → Bool
  | ⟨"HGETALL", _⟩ => true
  | ⟨"FT.INFO", _⟩ => true
  | _ => false

/-- A reply that lists names and values, and what an operation gives for it, if up to
`slack` items at its end may be left out.  No items at all are a document that there is
not. -/
inductive Operation.Lists (slack : Nat) : Operation → Reply → Answer → Prop where
  | missing (id : String) : Lists slack (.get id) (.array []) (.document none)
  | document (id : String) {all items rest : List Reply} {fields : List (String × String)}
    (all_eq : all = items ++ rest) (ne_nil : all ≠ []) (length_le : rest.length ≤ slack)
    (pairs : Reply.ArePairs Reply.Spells Reply.Spells items fields) :
    Lists slack (.get id) (.array all) (.document (some ⟨id, none, none, fields⟩))
  | info {all items rest : List Reply} {attributes : List (String × Reply)}
    (all_eq : all = items ++ rest) (length_le : rest.length ≤ slack)
    (pairs : Reply.ArePairs Reply.Spells Eq items attributes) :
    Lists slack .info (.array all) (.info attributes)

/-- The reply is an array with an odd number of items. -/
def Reply.IsOdd (r : Reply) : Prop :=
  ∃ items, r = .array items ∧ items.length % 2 = 1

/-- The reply lists names and values up to a last item, which has no partner. -/
def Operation.Cuts (op : Operation) (r : Reply) : Prop :=
  r.IsOdd ∧ ∃ a, op.Lists 1 r a

/-! ### Lists of pairs -/

/-- Of an even number of items, no single one is left over by pairs. -/
theorem Reply.ArePairs.rest_eq_nil {α β : Type} {first : Reply → α → Prop}
    {second : Reply → β → Prop} {items rest : List Reply} {pairs : List (α × β)}
    (h : ArePairs first second items pairs) (hrest : rest.length ≤ 1)
    (heven : (items ++ rest).length % 2 = 0) :
  rest = []
  := by
  have hitems := h.length_mod_two
  rw [List.length_append] at heven
  apply List.length_eq_zero_iff.mp
  omega

/-- A single item after pairs is not looked at. -/
theorem readPairs_concat {α β : Type} (first : Reply → Except SearchError α)
    (second : Reply → Except SearchError β) (last : Reply) :
    ∀ items : List Reply, items.length % 2 = 0 →
  readPairs first second (items ++ [last]) = readPairs first second items
  | [], _ => rfl
  | [_], h => by cases h
  | r₁ :: r₂ :: rest, h => by
    have hrest : rest.length % 2 = 0 := by
      simp only [List.length_cons] at h
      omega
    rw [List.cons_append, List.cons_append, readPairs, readPairs,
      readPairs_concat first second last rest hrest]

/-- Reading pairs decides whether there are pairs before the last item, if it has no
partner. -/
theorem verdict_readPairs_append {α β : Type} {first : Reply → Except SearchError α}
    {second : Reply → Except SearchError β} {P : Reply → α → Prop} {Q : Reply → β → Prop}
    (hfirst : ∀ r, Verdict (first r) (P r)) (hsecond : ∀ r, Verdict (second r) (Q r))
    (all : List Reply) :
  Verdict (readPairs first second all) fun pairs =>
    ∃ items rest, all = items ++ rest ∧ rest.length ≤ 1 ∧ Reply.ArePairs P Q items pairs
  := by
  obtain heven | hodd := Nat.mod_two_eq_zero_or_one all.length
  · apply (verdict_readPairs hfirst hsecond all heven).congr
    intro pairs
    constructor
    · rintro ⟨items, rest, rfl, hrest, hpairs⟩
      rw [hpairs.rest_eq_nil hrest heven, List.append_nil]
      apply hpairs
    · intro hpairs
      exact ⟨all, [], (List.append_nil all).symm, Nat.zero_le 1, hpairs⟩
  · have hne : all ≠ [] := by
      rintro rfl
      cases hodd
    obtain ⟨before, last, rfl⟩ := (List.eq_nil_or_concat' all).resolve_left hne
    have hbefore : before.length % 2 = 0 := by
      rw [List.length_append, List.length_singleton] at hodd
      omega
    rw [readPairs_concat first second last before hbefore]
    apply (verdict_readPairs hfirst hsecond before hbefore).congr
    intro pairs
    constructor
    · rintro ⟨items, rest, hall, hrest, hpairs⟩
      have hitems := hpairs.length_mod_two
      have hlength := congrArg List.length hall
      rw [List.length_append, List.length_append, List.length_singleton] at hlength
      obtain ⟨r, rfl⟩ := List.length_eq_one_iff.mp (by omega : rest.length = 1)
      rw [(List.append_inj' hall rfl).1]
      apply hpairs
    · intro hpairs
      exact ⟨before, [last], rfl, Nat.le_refl 1, hpairs⟩

/-! ### The two readers -/

namespace Operation

/-- The operations whose commands are answered with names and values. -/
theorem eq_get_or_eq_info {ix : Index} {op : Operation} (h : (op.call ix).isListing) :
  (∃ id, op = .get id ∧ ix.definition.storage = .hash) ∨ op = .info
  := by
  cases op with
  | get id =>
    rw [call] at h
    cases hstorage : ix.definition.storage with
    | hash => exact .inl ⟨id, rfl, rfl⟩
    | json => rw [hstorage] at h; exact absurd h Bool.false_ne_true
  | info => exact .inr rfl
  | add id fields =>
    rw [call] at h
    cases hstorage : ix.definition.storage with
    | hash => rw [hstorage] at h; exact absurd h Bool.false_ne_true
    | json => rw [hstorage] at h; exact absurd h Bool.false_ne_true
  | _ => exact absurd h Bool.false_ne_true

section Get

variable {ix : Index} (hstorage : ix.definition.storage = .hash) (id : String)
include hstorage

/-- A document without fields is none. -/
theorem read_get_nil :
  (get id).read ix (.array []) = .ok (.document none)
  := by
  rw [read, hstorage]
  rfl

/-- A document is the pairs that are read from its items. -/
theorem read_get_cons (first : Reply) (rest : List Reply) :
  (get id).read ix (.array (first :: rest))
    = (readPairs (readText .string) (readText .string) (first :: rest)).map fun fields =>
        .document (some ⟨id, none, none, fields⟩)
  := by
  rw [read, hstorage]
  simp only [readDocument, readItems, Reply.items?, bind, Except.bind]
  cases readPairs (readText .string) (readText .string) (first :: rest) with
  | error e => rfl
  | ok fields => rfl

theorem read_get_of_items?_eq_none {r : Reply} (hr : r.items? = none) :
  (get id).read ix r = .error (.unexpectedReply .fieldArray .notAnArray)
  := by
  rw [read, hstorage, readDocument, readItems, hr]
  rfl

/-- Getting a document decides what the reply lists, but for a last item without a
partner. -/
theorem verdict_get (r : Reply) :
  Verdict ((get id).read ix r) ((get id).Lists 1 r)
  := by
  cases r with
  | array all =>
    cases all with
    | nil =>
      rw [read_get_nil hstorage]
      apply Verdict.ok
      intro a
      constructor
      · intro h
        cases h with
        | missing => rfl
        | document _ _ hne _ _ => apply (hne rfl).elim
      · rintro rfl
        apply Lists.missing
    | cons first rest =>
      rw [read_get_cons hstorage]
      apply ((verdict_readPairs_append (verdict_readText .string) (verdict_readText .string)
        (first :: rest)).map _).congr
      intro a
      constructor
      · intro h
        cases h with
        | document _ hall _ hrest hpairs => exact ⟨_, ⟨_, _, hall, hrest, hpairs⟩, rfl⟩
      · rintro ⟨fields, ⟨items, rest', hall, hrest, hpairs⟩, rfl⟩
        apply Lists.document id hall (List.cons_ne_nil first rest) hrest hpairs
  | _ =>
    rw [read_get_of_items?_eq_none hstorage id rfl]
    apply Verdict.unexpected
    rintro a ⟨⟩

end Get

section GetJson

variable {ix : Index} (hstorage : ix.definition.storage = .json) (id : String)
include hstorage

/-- A document that is stored as JSON comes as a text, which is the field `$`. -/
theorem verdict_get_json (r : Reply) :
  Verdict ((get id).read ix r) fun a =>
    (r = .nil ∧ a = .document none) ∨
      ∃ s, r.Spells s ∧ a = .document (some ⟨id, none, none, [("$", s)]⟩)
  := by
  by_cases hnil : r = .nil
  · subst hnil
    rw [read, hstorage]
    apply Verdict.ok
    intro a
    constructor
    · rintro (⟨-, rfl⟩ | ⟨s, ⟨⟩, -⟩)
      rfl
    · rintro rfl
      exact .inl ⟨rfl, rfl⟩
  · have hread : (get id).read ix r
      = (readText .string r).map fun s => .document (some ⟨id, none, none, [("$", s)]⟩)
      := by
      rw [read, hstorage, readDocument]
      · cases readText .string r with
        | error e => rfl
        | ok s => rfl
      · exact hnil
    rw [hread]
    apply ((verdict_readText .string r).map _).congr
    intro a
    constructor
    · rintro (⟨rfl, -⟩ | h)
      · exact absurd rfl hnil
      · exact h
    · exact .inr

/-- So the JSON of a document is what the text of the reply is read as. -/
theorem json?_of_read_get {r : Reply} {d : Document}
    (h : (get id).read ix r = .ok (.document (some d))) :
  ∃ s, r.Spells s ∧ d.json? = some (Json.read s)
  := by
  rw [(verdict_get_json hstorage id r).eq_ok_iff] at h
  obtain ⟨-, ⟨⟩⟩ | ⟨s, hs, ⟨⟩⟩ := h
  exact ⟨s, hs, rfl⟩

end GetJson

/-- The attributes of an index are the pairs that are read from the items. -/
theorem read_info (ix : Index) (all : List Reply) :
  info.read ix (.array all) = (readPairs (readText .string) .ok all).map .info
  := by
  simp only [read, readItems, Reply.items?, bind, Except.bind]
  cases readPairs (readText .string) .ok all with
  | error e => rfl
  | ok attributes => rfl

/-- Asking for the attributes of an index decides what the reply lists, too. -/
theorem verdict_info (ix : Index) (r : Reply) :
  Verdict (info.read ix r) (info.Lists 1 r)
  := by
  have hvalue (r : Reply) : Verdict (.ok r) (Eq r) := by
    apply Verdict.ok
    intro r'
    apply eq_comm
  cases r with
  | array all =>
    rw [read_info]
    apply ((verdict_readPairs_append (verdict_readText .string) hvalue all).map _).congr
    intro a
    constructor
    · intro h
      cases h with
      | info hall hrest hpairs => exact ⟨_, ⟨_, _, hall, hrest, hpairs⟩, rfl⟩
    · rintro ⟨attributes, ⟨items, rest, hall, hrest, hpairs⟩, rfl⟩
      apply Lists.info hall hrest hpairs
  | _ =>
    apply Verdict.unexpected
    rintro a ⟨⟩

/-- Nothing is left out exactly of an even number of items. -/
theorem lists_zero_iff (op : Operation) (r : Reply) (a : Answer) :
  op.Lists 0 r a ↔ op.Lists 1 r a ∧ ¬ r.IsOdd
  := by
  have heven {all items rest : List Reply} (hall : all = items ++ rest)
    (hitems : items.length % 2 = 0) (hrest : rest.length ≤ 1) :
    rest.length ≤ 0 ↔ ¬ (Reply.array all).IsOdd
    := by
    have hlength := congrArg List.length hall
    rw [List.length_append] at hlength
    constructor
    · rintro h ⟨all', heq, hodd⟩
      cases heq
      omega
    · intro h
      by_contra hne
      apply h
      use all, rfl
      omega
  constructor
  · intro h
    cases h with
    | missing id =>
      use Lists.missing id
      rintro ⟨_, heq, hodd⟩
      cases heq
      cases hodd
    | document id hall hne hrest hpairs =>
      have hle := Nat.le_succ_of_le hrest
      use Lists.document id hall hne hle hpairs
      apply (heven hall hpairs.length_mod_two hle).mp hrest
    | info hall hrest hpairs =>
      have hle := Nat.le_succ_of_le hrest
      use Lists.info hall hle hpairs
      apply (heven hall hpairs.length_mod_two hle).mp hrest
  · rintro ⟨h, hodd⟩
    cases h with
    | missing id => apply Lists.missing
    | document id hall hne hrest hpairs =>
      apply Lists.document id hall hne ((heven hall hpairs.length_mod_two hrest).mpr hodd) hpairs
    | info hall hrest hpairs =>
      apply Lists.info hall ((heven hall hpairs.length_mod_two hrest).mpr hodd) hpairs

end Operation

namespace Index

/-- What comes of the reply to an operation that asks for names and values is what it
lists, up to a last item without a partner, and any other reply is refused as unexpected.
So the operation gives nothing but what the whole reply lists exactly if the reply does not
list pairs before such an item, which the reader of rows refuses. -/
theorem listed_iff (ix : Index) {op : Operation} (hlisting : (op.call ix).isListing) (r : Reply)
    (s : Session) :
  let result := (ix.perform op (s.answering (.ok r))).1
  (∀ a, result = .ok a ↔ op.Lists 1 r a) ∧
  ((∃ a, result = .ok a) ∨
    ∃ expected actual, result = .error (.unexpectedReply expected actual)) ∧
  ((∀ a, result = .ok a ↔ op.Lists 0 r a) ↔ ¬ op.Cuts r) ∧
  (op.Cuts r → ∃ n, readContent r = .error (.unexpectedReply .evenFields (.length n)))
  := by
  intro result
  have hverdict : Verdict result (op.Lists 1 r) := by
    rcases Operation.eq_get_or_eq_info hlisting with ⟨id, rfl, hstorage⟩ | rfl
    · have hresult : result = (Operation.get id).read ix r := answer_perform_answering rfl s (.ok r)
      rw [hresult]
      apply Operation.verdict_get hstorage
    · have hresult : result = Operation.info.read ix r := answer_perform_answering rfl s (.ok r)
      rw [hresult]
      apply Operation.verdict_info
  refine ⟨hverdict.eq_ok_iff, hverdict.ok_or_unexpected, ?_, ?_⟩
  · constructor
    · rintro h ⟨hodd, a, ha⟩
      have hwhole := (h a).mp ((hverdict.eq_ok_iff a).mpr ha)
      apply ((op.lists_zero_iff r a).mp hwhole).2 hodd
    · intro h a
      rw [hverdict.eq_ok_iff, op.lists_zero_iff]
      constructor
      · intro ha
        use ha
        intro hodd
        apply h ⟨hodd, a, ha⟩
      · rintro ⟨ha, -⟩
        apply ha
  · rintro ⟨⟨items, rfl, hodd⟩, -⟩
    use items.length
    rw [readContent, readFields, if_neg]
    omega

/-- The fields of a hash, with an item after them that has no partner. -/
def oddReply : Reply :=
  .array [.bulk "title", .bulk "x", .bulk "lost"]

/-- They are read without that item, while a row of a search is refused for it. -/
theorem listed_odd :
  let ix : Index := ⟨{ name := "idx" }, .empty⟩
  ((Operation.get "a").call ix).isListing ∧ (Operation.get "a").Cuts oddReply ∧
  (ix.perform (.get "a") (Session.answering {} (.ok oddReply))).1
    = .ok (.document (some ⟨"a", none, none, [("title", "x")]⟩)) ∧
  ∃ n, readContent oddReply = .error (.unexpectedReply .evenFields (.length n))
  := by
  intro ix
  have hlisting : ((Operation.get "a").call ix).isListing = true := rfl
  obtain ⟨hok, -, -, hrow⟩ := ix.listed_iff hlisting oddReply {}
  have hpairs : Reply.ArePairs Reply.Spells Reply.Spells [.bulk "title", .bulk "x"]
    [("title", "x")] := .cons (.bulk "title") (.bulk "x") .nil
  have hall : [Reply.bulk "title", .bulk "x", .bulk "lost"]
    = [.bulk "title", .bulk "x"] ++ [.bulk "lost"] := rfl
  have hlists : (Operation.get "a").Lists 1 oddReply _ :=
    .document "a" hall (List.cons_ne_nil _ _) (Nat.le_refl 1) hpairs
  have hcuts : (Operation.get "a").Cuts oddReply := ⟨⟨_, rfl, rfl⟩, _, hlists⟩
  exact ⟨hlisting, hcuts, (hok _).mpr hlists, hrow hcuts⟩

/-- Not every reply that is taken is taken as a whole. -/
theorem not_listed_whole :
  ¬ ∀ (ix : Index) (op : Operation) (r : Reply) (s : Session), (op.call ix).isListing →
    let result := (ix.perform op (s.answering (.ok r))).1
    (∀ a, result = .ok a ↔ op.Lists 0 r a) ∧
    ((∃ a, result = .ok a) ∨
      ∃ expected actual, result = .error (.unexpectedReply expected actual))
  := by
  intro h
  have hwhole := (h ⟨{ name := "idx" }, .empty⟩ (.get "a") oddReply {} rfl).1
    (.document (some ⟨"a", none, none, [("title", "x")]⟩))
  have hlists := (Operation.lists_zero_iff _ _ _).mp (hwhole.mp rfl)
  apply hlists.2
  exact ⟨_, rfl, rfl⟩

end Index

end FullText
