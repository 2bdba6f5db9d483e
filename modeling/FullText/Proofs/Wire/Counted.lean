import FullText.Wire.Arg
import Mathlib.Data.List.Basic

/-!
# Reading arguments

A reader takes what it reads off the front of a list of arguments.  Nothing marks where
an item ends, so a reader must know from what it has read how much to take: a reader
`Recovers` the items that are written in some way when it takes back what was written,
whatever stands behind it.

A `Counted` list is written after the number of its arguments, and read back by that
number alone (`takeCounted_recovers`).  An item that may be absent stands after a keyword,
and is known by it if nothing else can begin with the keyword
(`announcedArgs_append_inj`).
-/

namespace FullText

/-- A reader of arguments. -/
abbrev ArgReader (α : Type) :=
  List Arg → Option (α × List Arg)

/-- The reader takes back an item, and leaves what stands behind it. -/
def ArgReader.Recovers {α : Type} (read : ArgReader α) (args : List Arg) (a : α) : Prop :=
  ∀ rest, read (args ++ rest) = some (a, rest)

/-- What a reader takes back from the same arguments is the same, and so is what stands
behind it. -/
theorem ArgReader.Recovers.eq_of_append {α : Type} {read : ArgReader α}
    {args args' F G : List Arg} {a a' : α} (h : read.Recovers args a)
    (h' : read.Recovers args' a') (heq : args ++ F = args' ++ G) :
  a = a' ∧ F = G
  := by
  apply Prod.mk.inj
  apply Option.some.inj
  rw [← h, heq, h']

/-! ### Texts and numbers -/

/-- The number whose decimal form a text is. -/
def decimal? (s : String) : Option Nat :=
  let n := Nat.ofDigitChars 10 s.toList 0
  if toString n = s then some n else none

/-- A number is known from its decimal form. -/
theorem decimal?_toString (n : Nat) :
  decimal? (toString n) = some n
  := by
  have hn : Nat.ofDigitChars 10 (toString n).toList 0 = n := by
    rw [Nat.toString_eq_repr, Nat.toList_repr, Nat.ofDigitChars_ten_toDigits]
  simp only [decimal?, hn, if_true]

/-- A number is known from its argument. -/
theorem Arg.ofNat_inj {m n : Nat} :
  Arg.ofNat m = .ofNat n ↔ m = n
  := by
  constructor
  · intro h
    apply Option.some.inj
    rw [← decimal?_toString m, Arg.text.inj h, decimal?_toString]
  · rintro rfl
    rfl

/-- A text. -/
def takeText : ArgReader String
  | .text s :: rest => some (s, rest)
  | _ => none

/-- A number in decimal. -/
def takeNat : ArgReader Nat
  | .text s :: rest => (decimal? s).map fun n => (n, rest)
  | _ => none

/-- Any argument. -/
def takeArg : ArgReader Arg
  | a :: rest => some (a, rest)
  | [] => none

@[simp]
theorem takeText_text (s : String) (rest : List Arg) :
  takeText (.text s :: rest) = some (s, rest)
  := rfl

@[simp]
theorem takeNat_ofNat (n : Nat) (rest : List Arg) :
  takeNat (.ofNat n :: rest) = some (n, rest)
  := by
  rw [Arg.ofNat, takeNat, decimal?_toString, Option.map_some]

@[simp]
theorem takeArg_cons (a : Arg) (rest : List Arg) :
  takeArg (a :: rest) = some (a, rest)
  := rfl

/-! ### Counted items -/

/-- As many items as are asked for. -/
def takeMany {α : Type} (item : ArgReader α) : Nat → ArgReader (List α)
  | 0, args => some ([], args)
  | n + 1, args => do
    let (a, args) ← item args
    let (items, args) ← takeMany item n args
    some (a :: items, args)

theorem takeMany_recovers {α : Type} {item : ArgReader α} {write : α → List Arg}
    (hitem : ∀ a, item.Recovers (write a) a) (items : List α) :
  (takeMany item items.length).Recovers (items.flatMap write) items
  := by
  intro rest
  induction items with
  | nil => rfl
  | cons a items ih =>
    rw [List.length_cons, List.flatMap_cons, List.append_assoc, takeMany, hitem a]
    simp only [Option.bind_eq_bind, Option.bind_some]
    rw [ih]
    rfl

/-- Items, and the number of arguments that is announced for them. -/
structure Counted (α : Type) where
  announced : Nat
  items : List α

namespace Counted

variable {α : Type}

/-- The arguments of counted items: the announced number, and then the items. -/
def args (write : α → List Arg) (c : Counted α) : List Arg :=
  .ofNat c.announced :: c.items.flatMap write

/-- As many arguments are announced as there are. -/
def IsExact (write : α → List Arg) (c : Counted α) : Prop :=
  c.announced = (c.items.flatMap write).length

/-- Items that are counted rightly. -/
def of (write : α → List Arg) (items : List α) : Counted α :=
  ⟨(items.flatMap write).length, items⟩

theorem isExact_of (write : α → List Arg) (items : List α) :
  (of write items).IsExact write
  := rfl

end Counted

/-- Counted items, each of which takes `width` arguments. -/
def takeCounted {α : Type} (width : Nat) (item : ArgReader α) : ArgReader (Counted α) :=
  fun args => do
    let (announced, args) ← takeNat args
    if announced % width = 0 then
      let (items, args) ← takeMany item (announced / width) args
      some (⟨announced, items⟩, args)
    else none

/-- Items of one width take that many times their number. -/
theorem length_flatMap_of_width {α β : Type} {width : Nat} {write : α → List β}
    (hwidth : ∀ a, (write a).length = width) (items : List α) :
  (items.flatMap write).length = width * items.length
  := by
  induction items with
  | nil => rfl
  | cons a items ih =>
    rw [List.flatMap_cons, List.length_append, hwidth, ih, List.length_cons, Nat.mul_succ,
      Nat.add_comm]

/-- Items that are counted rightly are read back. -/
theorem takeCounted_recovers {α : Type} {width : Nat} (hpos : 0 < width) {item : ArgReader α}
    {write : α → List Arg} (hwidth : ∀ a, (write a).length = width)
    (hitem : ∀ a, item.Recovers (write a) a) {c : Counted α} (hc : c.IsExact write) :
  (takeCounted width item).Recovers (c.args write) c
  := by
  intro rest
  obtain ⟨announced, items⟩ := c
  have hannounced : announced = width * items.length := by
    rw [← length_flatMap_of_width hwidth]
    apply hc
  have hmany := takeMany_recovers hitem items rest
  simp only [takeCounted, Counted.args, List.cons_append, takeNat_ofNat, Option.bind_eq_bind,
    Option.bind_some]
  rw [hannounced, if_pos (Nat.mul_mod_right ..), Nat.mul_div_cancel_left _ hpos, hmany]
  rfl

/-! ### Counted names -/

/-- The argument of a name. -/
def nameArgs (name : String) : List Arg :=
  [.text name]

/-- Names are announced by their number. -/
theorem Arg.counted_eq_args (names : List String) :
  counted names = (Counted.of nameArgs names).args nameArgs
  := by
  have hargs : names.flatMap nameArgs = ofTexts names := (List.map_eq_flatMap ..).symm
  have hlength : (names.flatMap nameArgs).length = names.length := by
    rw [hargs, ofTexts, List.length_map]
  rw [Counted.args, Counted.of, hlength, hargs, counted]

/-- Names that are counted rightly are read back. -/
theorem takeNames_recovers {fields : Counted String} (h : fields.IsExact nameArgs) :
  (takeCounted 1 takeText).Recovers (fields.args nameArgs) fields
  := takeCounted_recovers Nat.one_pos (fun _ => rfl) (fun _ _ => rfl) h

/-- Names that are counted can be told from the arguments, and so can what stands behind
them. -/
theorem Arg.counted_append_inj {names names' : List String} {F G : List Arg}
    (h : counted names ++ F = counted names' ++ G) :
  names = names' ∧ F = G
  := by
  have hnames (names : List String) :
    (takeCounted 1 takeText).Recovers (counted names) (Counted.of nameArgs names)
    := by
    rw [counted_eq_args]
    apply takeNames_recovers (Counted.isExact_of nameArgs names)
  obtain ⟨hcounted, hFG⟩ := (hnames names).eq_of_append (hnames names') h
  exact ⟨congrArg Counted.items hcounted, hFG⟩

/-! ### Items that may be absent -/

/-- An item after the keyword that announces it, if there is one. -/
def announcedArgs {α : Type} (keyword : String) (write : α → List Arg) (x : Option α) :
    List Arg :=
  match x with
  | some a => .text keyword :: write a
  | none => []

/-- An item that may be absent can be told from the arguments, and so can what stands
behind it, if that does not begin with the keyword of the item. -/
theorem announcedArgs_append_inj {α : Type} {keyword : String} {write : α → List Arg}
    (hwrite : ∀ a a' F G, write a ++ F = write a' ++ G → a = a' ∧ F = G) {F G : List Arg}
    (hF : .text keyword ∉ F.head?) (hG : .text keyword ∉ G.head?) {x y : Option α}
    (h : announcedArgs keyword write x ++ F = announcedArgs keyword write y ++ G) :
  x = y ∧ F = G
  := by
  cases x with
  | none =>
    cases y with
    | none => exact ⟨rfl, h⟩
    | some b =>
      apply (hF _).elim
      rw [← List.nil_append F]
      apply congrArg List.head? h
  | some a =>
    cases y with
    | none =>
      apply (hG _).elim
      rw [← List.nil_append G]
      apply congrArg List.head? h.symm
    | some b =>
      obtain ⟨rfl, hFG⟩ := hwrite a b F G (List.cons.inj h).2
      exact ⟨rfl, hFG⟩

end FullText
