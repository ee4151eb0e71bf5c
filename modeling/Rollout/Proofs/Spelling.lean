import Rollout.Proofs.Grammar

/-! Which places of a tree a written path can lead to. There is no escape in paths, so that a name
with both quotes in it has to do without quotes, which is not always possible. All other steps
after the first can be spelled, and a path that is spelled so is read back. -/

set_option autoImplicit false

namespace Rollout

namespace Text

theorem isDigit_eq (character : Char) : isDigit character = character.isDigit := by
  simp [isDigit, Char.isDigit, UInt32.le_iff_toNat_le]

theorem readDecimal_decimalDigits (number : Nat) : readDecimal (decimalDigits number) = number :=
  (Nat.ofDigitChars_eq_foldl).symm.trans Nat.ofDigitChars_ten_toDigits

theorem isDigit_of_mem_decimalDigits {number : Nat} {character : Char}
    (member : character ∈ decimalDigits number) : isDigit character = true := by
  rw [isDigit_eq]
  exact Nat.isDigit_of_mem_toDigits (by decide) (by decide) member

end Text

namespace Path

instance (name : List Char) : Decidable (IsName name) :=
  decidable_of_iff (name ≠ [] ∧ name.all fun character =>
      character ≠ '.' ∧ character ≠ '[' ∧ character ≠ ']')
    ⟨fun both => ⟨both.1, by simpa using both.2⟩,
      fun isName => ⟨isName.nonempty, by simpa using isName.plain⟩⟩

instance (character : Char) : Decidable (IsQuote character) := by
  unfold IsQuote; infer_instance

/-- No spelling takes the name: either quote would end within it, a bracket would end a key without
quotes or stand in a bare name, and so would a dot, where the key cannot start as it does. -/
def Unspellable (name : List Char) : Prop :=
  ('"' ∈ name ∧ '\'' ∈ name) ∧
    (('[' ∈ name ∨ ']' ∈ name) ∨ '.' ∈ name ∧ ∃ first ∈ name.head?, IsQuote first)

instance (name : List Char) : Decidable (Unspellable name) :=
  decidable_of_iff (('"' ∈ name ∧ '\'' ∈ name) ∧
      (('[' ∈ name ∨ ']' ∈ name) ∨ '.' ∈ name ∧ name.head?.any (IsQuote ·)))
    (by simp [Unspellable, Option.any_eq_true])

def Spellable : Segment → Prop
  | .field name => ¬ Unspellable name.toList
  | .index position => position < Text.wordLimit

instance (segment : Segment) : Decidable (Spellable segment) := by
  cases segment <;> unfold Spellable <;> infer_instance

/-- A path leads along these steps: it starts with a bare name, and all later steps can be
spelled. -/
def Addressable : List Segment → Prop
  | .field name :: later => IsName name.toList ∧ ∀ segment ∈ later, Spellable segment
  | _ => False

instance (segments : List Segment) : Decidable (Addressable segments) := by
  unfold Addressable; split <;> infer_instance

/-- A name after a dot if it can stand there bare, else in brackets, and in a quote that is not in
it, if there is one. -/
def spelledName (name : List Char) : List Char :=
  if IsName name then '.' :: name
  else if '"' ∉ name then '[' :: '"' :: (name ++ ['"', ']'])
  else if '\'' ∉ name then '[' :: '\'' :: (name ++ ['\'', ']'])
  else '[' :: (name ++ [']'])

def spelled : Segment → List Char
  | .field name => spelledName name.toList
  | .index position => '[' :: (Text.decimalDigits position ++ [']'])

def render : List Segment → String
  | .field name :: later => String.ofList (name.toList ++ later.flatMap spelled)
  | _ => ""

theorem isBare_of_spellable {name : List Char} (spellable : ¬ Unspellable name)
    (unbare : ¬ IsName name) (double : '"' ∈ name) (single : '\'' ∈ name) : IsBare name := by
  have nonempty : name ≠ [] := List.ne_nil_of_mem double
  have unbracketed : '[' ∉ name ∧ ']' ∉ name := by
    constructor
    · intro opening
      exact spellable ⟨⟨double, single⟩, .inl (.inl opening)⟩
    · intro closing
      exact spellable ⟨⟨double, single⟩, .inl (.inr closing)⟩
  have free : ∀ character ∈ name, character ≠ '[' ∧ character ≠ ']' := by
    intro character member
    exact ⟨fun opening => unbracketed.1 (opening ▸ member),
      fun closing => unbracketed.2 (closing ▸ member)⟩
  have dotted : '.' ∈ name := by
    refine Decidable.byContradiction fun undotted => ?_
    refine unbare ⟨nonempty, fun character member => ⟨?_, free character member⟩⟩
    rintro rfl
    exact undotted member
  refine ⟨nonempty, free, fun character first opens => ?_⟩
  exact spellable ⟨⟨double, single⟩, .inr ⟨dotted, character, first, opens⟩⟩

theorem items_spelledName {name : String} (spellable : ¬ Unspellable name.toList)
    {rest : List Char} {later : List Segment} (items : Items rest later) :
    Items (spelledName name.toList ++ rest) (.field name :: later) := by
  have same : String.ofList name.toList = name := String.ofList_toList
  unfold spelledName
  split
  next isName =>
    have dotted := Items.dotted isName items
    rwa [same] at dotted
  next unbare =>
    split
    next free =>
      have quoted := Items.bracketed (.quoted (.inl rfl) free) items
      rw [same] at quoted
      simpa using quoted
    next unfree =>
      have double : '"' ∈ name.toList := Decidable.not_not.mp unfree
      split
      next free =>
        have quoted := Items.bracketed (.quoted (.inr rfl) free) items
        rw [same] at quoted
        simpa using quoted
      next unfree =>
        have single : '\'' ∈ name.toList := Decidable.not_not.mp unfree
        have bare : IsBare name.toList := isBare_of_spellable spellable unbare double single
        have keyed := Items.bracketed (.key bare ⟨'"', double, rfl⟩) items
        rw [same] at keyed
        simpa using keyed

theorem inner_decimalDigits {position : Nat} (fits : position < Text.wordLimit) :
    Inner (Text.decimalDigits position) (.index position) := by
  have value : Text.readDecimal (Text.decimalDigits position) = position :=
    Text.readDecimal_decimalDigits position
  have digital (character : Char) (member : character ∈ Text.decimalDigits position) :
      Text.isDigit character = true :=
    Text.isDigit_of_mem_decimalDigits member
  have bare : IsBare (Text.decimalDigits position) := by
    refine ⟨Nat.toDigits_ne_nil, ?_, ?_⟩
    · intro character member
      have digit := digital character member
      constructor
      · rintro rfl
        cases digit
      · rintro rfl
        cases digit
    · intro character first
      have digit := digital character (List.mem_of_head? first)
      rintro (rfl | rfl)
      · cases digit
      · cases digit
  have denoted := Inner.position bare digital (value.symm ▸ fits)
  rwa [value] at denoted

theorem items_spelled {segment : Segment} (spellable : Spellable segment) {rest : List Char}
    {later : List Segment} (items : Items rest later) :
    Items (spelled segment ++ rest) (segment :: later) := by
  cases segment with
  | field name => exact items_spelledName spellable items
  | index position =>
      have denoted := Items.bracketed (inner_decimalDigits spellable) items
      simpa [spelled] using denoted

theorem items_of_spellable {segments : List Segment}
    (spellable : ∀ segment ∈ segments, Spellable segment) :
    Items (segments.flatMap spelled) segments := by
  induction segments with
  | nil => exact .nothing
  | cons segment rest ih =>
      obtain ⟨first, others⟩ := List.forall_mem_cons.mp spellable
      exact items_spelled first (ih others)

theorem Inner.spellable {inner : List Char} {segment : Segment} (held : Inner inner segment) :
    Spellable segment := by
  cases held with
  | quoted opens free =>
      rw [Spellable, String.toList_ofList]
      rintro ⟨⟨double, single⟩, -⟩
      rcases opens with rfl | rfl
      · exact free double
      · exact free single
  | position bare digital fits => exact fits
  | key bare worded =>
      rw [Spellable, String.toList_ofList]
      rintro ⟨-, (opening | closing) | ⟨-, first, head, opens⟩⟩
      · exact (bare.unbracketed _ opening).1 rfl
      · exact (bare.unbracketed _ closing).2 rfl
      · exact bare.unquoted first head opens

theorem IsName.spellable {name : List Char} (isName : IsName name) :
    Spellable (.field (String.ofList name)) := by
  rw [Spellable, String.toList_ofList]
  rintro ⟨-, (opening | closing) | ⟨dot, -⟩⟩
  · exact (isName.plain _ opening).2.1 rfl
  · exact (isName.plain _ closing).2.2 rfl
  · exact (isName.plain _ dot).1 rfl

theorem Items.spellable {characters : List Char} {segments : List Segment}
    (items : Items characters segments) : ∀ segment ∈ segments, Spellable segment := by
  induction items with
  | nothing => exact fun _ impossible => nomatch impossible
  | dotted isName items ih => exact List.forall_mem_cons.mpr ⟨isName.spellable, ih⟩
  | bracketed held items ih => exact List.forall_mem_cons.mpr ⟨held.spellable, ih⟩

theorem addressable_of_parse {path : String} {segments : List Segment}
    (parsed : parse path = .ok segments) : Addressable segments := by
  obtain ⟨name, rest, later, -, isName, items, rfl⟩ := parse_eq_ok_iff.mp parsed
  rw [Addressable, String.toList_ofList]
  exact ⟨isName, items.spellable⟩

theorem parse_render {segments : List Segment} (addressable : Addressable segments) :
    parse (render segments) = .ok segments := by
  match segments, addressable with
  | .field name :: later, ⟨isName, spellable⟩ =>
      refine parse_eq_ok_iff.mpr ⟨name.toList, later.flatMap spelled, later, ?_, isName,
        items_of_spellable spellable, ?_⟩
      · rw [render, String.toList_ofList]
      · rw [String.ofList_toList]

/-- The lists of steps that a path leads along are the addressable ones, and each of these is read
back from its rendering. -/
theorem addressable_iff_parsed (segments : List Segment) :
    (Addressable segments ↔ ∃ path, parse path = .ok segments) ∧
      (Addressable segments ↔ parse (render segments) = .ok segments) := by
  have rendered : Addressable segments → parse (render segments) = .ok segments := parse_render
  refine ⟨⟨fun addressable => ⟨_, rendered addressable⟩, ?_⟩, rendered, addressable_of_parse⟩
  rintro ⟨path, parsed⟩
  exact addressable_of_parse parsed

example : render [.field "a", .field "b'\"", .field "", .field "\".", .field "x'\".", .index 10] =
    "a.b'\"[\"\"]['\".'][x'\".][10]" := by decide

example : ¬ Addressable [.field "a", .field "'\"."] := by decide

end Path

end Rollout
