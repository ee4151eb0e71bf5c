import Rollout.Config.Basic
import Rollout.Path.Write

/-! The grammar of written paths, and that the reader accepts just what it allows. The reader stands
at a place of the text; what may follow there is said for each place, and agrees with the reader
one character at a time. -/

set_option autoImplicit false

namespace Rollout.Path

/-! ### The grammar -/

structure IsName (name : List Char) : Prop where
  nonempty : name ≠ []
  plain : ∀ character ∈ name, character ≠ '.' ∧ character ≠ '[' ∧ character ≠ ']'

def IsQuote (character : Char) : Prop := character = '"' ∨ character = '\''

structure IsBare (key : List Char) : Prop where
  nonempty : key ≠ []
  unbracketed : ∀ character ∈ key, character ≠ '[' ∧ character ≠ ']'
  unquoted : ∀ character, key.head? = some character → ¬ IsQuote character

/-- What may stand in brackets, and the step that it denotes. -/
inductive Inner : List Char → Segment → Prop where
  | quoted {quote : Char} {key : List Char} (opens : IsQuote quote) (free : quote ∉ key) :
      Inner (quote :: (key ++ [quote])) (.field (String.ofList key))
  | position {digits : List Char} (bare : IsBare digits)
      (digital : ∀ character ∈ digits, Text.isDigit character = true)
      (fits : Text.readDecimal digits < Text.wordLimit) :
      Inner digits (.index (Text.readDecimal digits))
  | key {key : List Char} (bare : IsBare key)
      (worded : ∃ character ∈ key, Text.isDigit character = false) :
      Inner key (.field (String.ofList key))

/-- What may come after a name or a bracket, and the steps that it denotes. -/
inductive Items : List Char → List Segment → Prop where
  | nothing : Items [] []
  | dotted {name rest : List Char} {later : List Segment} (isName : IsName name)
      (items : Items rest later) :
      Items ('.' :: (name ++ rest)) (.field (String.ofList name) :: later)
  | bracketed {inner rest : List Char} {segment : Segment} {later : List Segment}
      (held : Inner inner segment) (items : Items rest later) :
      Items ('[' :: (inner ++ ']' :: rest)) (segment :: later)

/-- The characters are a name followed by items, with these steps. -/
def Named (characters : List Char) (segments : List Segment) : Prop :=
  ∃ name rest later, characters = name ++ rest ∧ IsName name ∧ Items rest later ∧
    segments = .field (String.ofList name) :: later

/-- The text is a path, with these steps. -/
def Denotes (path : String) (segments : List Segment) : Prop :=
  Named path.toList segments

theorem items_nil_iff {segments : List Segment} : Items [] segments ↔ segments = [] := by
  constructor
  · intro items
    cases items
    rfl
  · rintro rfl
    exact .nothing

def Opened (characters : List Char) (segments : List Segment) : Prop :=
  ∃ inner rest segment later, characters = inner ++ ']' :: rest ∧ Inner inner segment ∧
    Items rest later ∧ segments = segment :: later

theorem items_cons_iff {first : Char} {rest : List Char} {segments : List Segment} :
    Items (first :: rest) segments ↔
      first = '.' ∧ Named rest segments ∨ first = '[' ∧ Opened rest segments := by
  constructor
  · intro items
    generalize whole : first :: rest = characters at items
    cases items with
    | nothing => cases whole
    | dotted isName items =>
        cases whole
        exact .inl ⟨rfl, _, _, _, rfl, isName, items, rfl⟩
    | bracketed held items =>
        cases whole
        exact .inr ⟨rfl, _, _, _, _, rfl, held, items, rfl⟩
  · rintro (⟨rfl, name, tail, later, rfl, isName, items, rfl⟩ |
      ⟨rfl, inner, tail, segment, later, rfl, held, items, rfl⟩)
    · exact .dotted isName items
    · exact .bracketed held items

def Runs (free : Char → Prop) (next : List Char → List Char → Prop) (characters : List Char) :
    Prop :=
  ∃ run rest, characters = run ++ rest ∧ (∀ character ∈ run, free character) ∧ next run rest

variable {free : Char → Prop} {next : List Char → List Char → Prop}

theorem runs_nil_iff : Runs free next [] ↔ next [] [] := by
  constructor
  · rintro ⟨run, rest, whole, -, after⟩
    obtain ⟨rfl, rfl⟩ := List.append_eq_nil_iff.mp whole.symm
    exact after
  · intro after
    exact ⟨[], [], rfl, by simp, after⟩

theorem runs_cons_iff {character : Char} {rest : List Char} :
    Runs free next (character :: rest) ↔
      next [] (character :: rest) ∨
        free character ∧ Runs free (fun run => next (character :: run)) rest := by
  constructor
  · rintro ⟨run, tail, whole, allFree, after⟩
    cases run with
    | nil =>
        cases whole
        exact .inl after
    | cons first run =>
        cases whole
        exact .inr ⟨allFree _ List.mem_cons_self, run, tail, rfl,
          fun other member => allFree other (List.mem_cons_of_mem _ member), after⟩
  · rintro (after | ⟨isFree, run, tail, rfl, allFree, after⟩)
    · exact ⟨[], _, rfl, by simp, after⟩
    · refine ⟨character :: run, tail, rfl, ?_, after⟩
      intro other member
      rcases List.mem_cons.mp member with rfl | later
      · exact isFree
      · exact allFree other later

/-- The reader may come to its end over these characters, with these steps still to come. -/
def Place.Reads (place : Place) (characters : List Char) (segments : List Segment) : Prop :=
  match place with
  | .start => Named characters segments
  | .afterDot => Named characters segments
  | .inName read =>
    Runs (fun c => c ≠ '.' ∧ c ≠ '[' ∧ c ≠ ']') (fun run rest => ∃ later, Items rest later ∧
      segments = .field (name (run.reverse ++ read)) :: later) characters
  | .opened => Opened characters segments
  | .inBrackets read =>
    Runs (fun c => c ≠ '[' ∧ c ≠ ']') (fun run rest => ∃ tail segment later, rest = ']' :: tail ∧
      bracketed (run.reverse ++ read) = .ok segment ∧ Items tail later ∧
        segments = segment :: later) characters
  | .inQuotes quote read =>
    Runs (· ≠ quote) (fun run rest => ∃ tail later, rest = quote :: ']' :: tail ∧
      Items tail later ∧ segments = .field (name (run.reverse ++ read)) :: later) characters
  | .afterQuote key =>
    ∃ tail later, characters = ']' :: tail ∧ Items tail later ∧
      segments = .field (name key) :: later
  | .afterBracket => Items characters segments

theorem name_concat (read : List Char) (first : Char) :
    name (read.reverse ++ [first]) = String.ofList (first :: read) := by
  simp [name]

theorem named_cons_iff {first : Char} {rest : List Char} {segments : List Segment} :
    Named (first :: rest) segments ↔
      (first ≠ '.' ∧ first ≠ '[' ∧ first ≠ ']') ∧ (Place.inName [first]).Reads rest segments := by
  constructor
  · rintro ⟨whole, tail, later, split, isName, items, rfl⟩
    cases whole with
    | nil => exact absurd rfl isName.nonempty
    | cons head run =>
        cases split
        refine ⟨isName.plain _ List.mem_cons_self, run, tail, rfl, ?_, later, items, ?_⟩
        · intro other member
          exact isName.plain other (List.mem_cons_of_mem _ member)
        · rw [name_concat]
  · rintro ⟨plain, run, tail, rfl, allPlain, later, items, rfl⟩
    refine ⟨first :: run, tail, later, rfl, ⟨List.cons_ne_nil _ _, ?_⟩, items, ?_⟩
    · intro other member
      rcases List.mem_cons.mp member with rfl | there
      · exact plain
      · exact allPlain other there
    · rw [name_concat]

theorem bracketed_eq_ok_iff {key : List Char} (bare : IsBare key) {segment : Segment} :
    bracketed key.reverse = .ok segment ↔ Inner key segment := by
  simp only [bracketed, List.all_reverse, List.reverse_reverse, name]
  constructor
  · intro accepted
    split at accepted
    · rename_i digital
      split at accepted
      · rename_i fits
        cases accepted
        exact .position bare (List.all_eq_true.mp digital) fits
      · cases accepted
    · rename_i worded
      cases accepted
      refine .key bare ?_
      simpa using worded
  · intro held
    cases held with
    | quoted opens free => exact absurd opens (bare.unquoted _ rfl)
    | position bare digital fits =>
        rw [if_pos (List.all_eq_true.mpr digital), if_pos fits]
    | key bare worded =>
        rw [if_neg]
        simpa using worded

theorem Inner.ne_nil {inner : List Char} {segment : Segment} (held : Inner inner segment) :
    inner ≠ [] := by
  cases held with
  | quoted opens free => exact List.cons_ne_nil _ _
  | position bare digital fits => exact bare.nonempty
  | key bare worded => exact bare.nonempty

theorem Inner.bare {first : Char} {rest : List Char} {segment : Segment}
    (held : Inner (first :: rest) segment) (unquoted : ¬ IsQuote first) :
    IsBare (first :: rest) := by
  generalize whole : first :: rest = inner at held
  cases held with
  | quoted opens free =>
      cases whole
      exact absurd opens unquoted
  | position bare digital fits => exact bare
  | key bare worded => exact bare

theorem Inner.quoted_cases {quote : Char} {rest : List Char} {segment : Segment}
    (held : Inner (quote :: rest) segment) (opens : IsQuote quote) :
    ∃ key, rest = key ++ [quote] ∧ quote ∉ key ∧ segment = .field (String.ofList key) := by
  generalize whole : quote :: rest = inner at held
  cases held with
  | quoted opens free =>
      cases whole
      exact ⟨_, rfl, free, rfl⟩
  | position bare digital fits =>
      cases whole
      exact absurd opens (bare.unquoted _ rfl)
  | key bare worded =>
      cases whole
      exact absurd opens (bare.unquoted _ rfl)

theorem not_opened_nil {segments : List Segment} : ¬ Opened [] segments := by
  rintro ⟨inner, rest, segment, later, whole, -⟩
  simp at whole

theorem opened_quote_iff {quote : Char} {rest : List Char} {segments : List Segment}
    (opens : IsQuote quote) :
    Opened (quote :: rest) segments ↔ (Place.inQuotes quote []).Reads rest segments := by
  constructor
  · rintro ⟨inner, tail, segment, later, whole, held, items, rfl⟩
    cases inner with
    | nil => exact absurd rfl held.ne_nil
    | cons first run =>
        cases whole
        obtain ⟨key, rfl, free, rfl⟩ := held.quoted_cases opens
        refine ⟨key, quote :: ']' :: tail, by simp, ?_, tail, later, rfl, items, by simp [name]⟩
        intro character member same
        exact free (same ▸ member)
  · rintro ⟨key, after, rfl, allFree, tail, later, rfl, items, rfl⟩
    refine ⟨quote :: (key ++ [quote]), tail, .field (String.ofList key), later, by simp,
      .quoted opens ?_, items, by simp [name]⟩
    intro member
    exact allFree quote member rfl

theorem opened_bare_iff {first : Char} {rest : List Char} {segments : List Segment}
    (unquoted : ¬ IsQuote first) :
    Opened (first :: rest) segments ↔
      (first ≠ '[' ∧ first ≠ ']') ∧ (Place.inBrackets [first]).Reads rest segments := by
  constructor
  · rintro ⟨inner, tail, segment, later, whole, held, items, rfl⟩
    cases inner with
    | nil => exact absurd rfl held.ne_nil
    | cons head run =>
        cases whole
        have bare := held.bare unquoted
        refine ⟨bare.unbracketed _ List.mem_cons_self, run, ']' :: tail, rfl, ?_, tail, segment,
          later, rfl, ?_, items, rfl⟩
        · intro other member
          exact bare.unbracketed other (List.mem_cons_of_mem _ member)
        · rw [← List.reverse_cons]
          exact (bracketed_eq_ok_iff bare).mpr held
  · rintro ⟨unbracketed, run, after, rfl, allFree, tail, segment, later, rfl, accepted, items, rfl⟩
    rw [← List.reverse_cons] at accepted
    have bare : IsBare (first :: run) := by
      refine ⟨List.cons_ne_nil _ _, ?_, ?_⟩
      · intro other member
        rcases List.mem_cons.mp member with rfl | there
        · exact unbracketed
        · exact allFree other there
      · intro other head
        cases head
        exact unquoted
    exact ⟨first :: run, tail, segment, later, rfl, (bracketed_eq_ok_iff bare).mp accepted, items,
      rfl⟩

/-! ### The reader -/

theorem map_cons_eq_ok_iff {first : Segment} {scanned : Except Malformed (List Segment)}
    {segments : List Segment} :
    scanned.map (first :: ·) = .ok segments ↔
      ∃ later, scanned = .ok later ∧ segments = first :: later := by
  cases scanned with
  | error reason => simp [Except.map]
  | ok found => simp [Except.map, eq_comm]

theorem not_named_nil {segments : List Segment} : ¬ Named [] segments := by
  rintro ⟨name, rest, later, whole, isName, -⟩
  exact isName.nonempty (List.append_eq_nil_iff.mp whole.symm).1

theorem scan_nil_iff (place : Place) {segments : List Segment} :
    scan place [] = .ok segments ↔ place.Reads [] segments := by
  cases place with
  | start => simp [scan, Place.Reads, not_named_nil]
  | afterDot => simp [scan, Place.Reads, not_named_nil]
  | inName read => simp [scan, Place.Reads, runs_nil_iff, items_nil_iff, eq_comm]
  | opened => simp [scan, Place.Reads, not_opened_nil]
  | inBrackets read => simp [scan, Place.Reads, runs_nil_iff]
  | inQuotes quote read => simp [scan, Place.Reads, runs_nil_iff]
  | afterQuote key => simp [scan, Place.Reads]
  | afterBracket => simp [scan, Place.Reads, items_nil_iff, eq_comm]

theorem reads_inName_cons_iff {read rest : List Char} {c : Char} {segments : List Segment} :
    (Place.inName read).Reads (c :: rest) segments ↔
      (∃ later, Items (c :: rest) later ∧ segments = .field (name read) :: later) ∨
        (c ≠ '.' ∧ c ≠ '[' ∧ c ≠ ']') ∧ (Place.inName (c :: read)).Reads rest segments := by
  simp only [Place.Reads, runs_cons_iff, List.reverse_cons, List.append_assoc,
    List.singleton_append, List.reverse_nil, List.nil_append]

theorem reads_inBrackets_cons_iff {read rest : List Char} {c : Char} {segments : List Segment} :
    (Place.inBrackets read).Reads (c :: rest) segments ↔
      (c = ']' ∧ ∃ segment, bracketed read = .ok segment ∧
        ∃ later, Items rest later ∧ segments = segment :: later) ∨
      (c ≠ '[' ∧ c ≠ ']') ∧ (Place.inBrackets (c :: read)).Reads rest segments := by
  simp only [Place.Reads, runs_cons_iff, List.reverse_cons, List.append_assoc,
    List.singleton_append, List.reverse_nil, List.nil_append, List.cons.injEq]
  apply or_congr_left
  constructor
  · rintro ⟨tail, segment, later, ⟨rfl, rfl⟩, accepted, items, rfl⟩
    exact ⟨rfl, segment, accepted, later, items, rfl⟩
  · rintro ⟨rfl, segment, accepted, later, items, rfl⟩
    exact ⟨rest, segment, later, ⟨rfl, rfl⟩, accepted, items, rfl⟩

theorem reads_inQuotes_cons_iff {quote c : Char} {read rest : List Char}
    {segments : List Segment} :
    (Place.inQuotes quote read).Reads (c :: rest) segments ↔
      c = quote ∧ (Place.afterQuote read).Reads rest segments ∨
        c ≠ quote ∧ (Place.inQuotes quote (c :: read)).Reads rest segments := by
  simp only [Place.Reads, runs_cons_iff, List.reverse_cons, List.append_assoc,
    List.singleton_append, List.reverse_nil, List.nil_append, List.cons.injEq]
  apply or_congr_left
  constructor
  · rintro ⟨tail, later, ⟨rfl, rfl⟩, items, rfl⟩
    exact ⟨rfl, tail, later, rfl, items, rfl⟩
  · rintro ⟨rfl, tail, later, rfl, items, rfl⟩
    exact ⟨tail, later, ⟨rfl, rfl⟩, items, rfl⟩

theorem scan_eq_ok_iff (place : Place) {characters : List Char} {segments : List Segment} :
    scan place characters = .ok segments ↔ place.Reads characters segments := by
  induction characters generalizing place segments with
  | nil => exact scan_nil_iff place
  | cons c rest ih =>
      have named (later : List Segment) : scan .afterDot rest = .ok later ↔ Named rest later :=
        ih .afterDot
      have opened (later : List Segment) : scan .opened rest = .ok later ↔ Opened rest later :=
        ih .opened
      have items (later : List Segment) : scan .afterBracket rest = .ok later ↔ Items rest later :=
        ih .afterBracket
      cases place with
      | start =>
          change _ ↔ Named (c :: rest) segments
          rw [scan, named_cons_iff, ← ih]
          grind
      | afterDot =>
          change _ ↔ Named (c :: rest) segments
          rw [scan, named_cons_iff, ← ih]
          grind
      | inName read =>
          rw [scan, reads_inName_cons_iff, ← ih]
          simp only [items_cons_iff, ← named, ← opened]
          grind [map_cons_eq_ok_iff]
      | opened =>
          change _ ↔ Opened (c :: rest) segments
          by_cases quote : IsQuote c
          · rw [scan, opened_quote_iff quote, ← ih, if_pos]
            simpa [IsQuote] using quote
          · rw [scan, opened_bare_iff quote, ← ih, if_neg]
            · grind
            · simpa [IsQuote] using quote
      | inBrackets read =>
          rw [scan, reads_inBrackets_cons_iff, ← ih]
          simp only [← items, ← map_cons_eq_ok_iff]
          split
          · rename_i closing
            cases bracketed read with
            | error reason => simp [closing, Bind.bind, Except.bind]
            | ok segment => simp [closing, Bind.bind, Except.bind]
          · grind
      | inQuotes quote read =>
          rw [scan, reads_inQuotes_cons_iff, ← ih, ← ih]
          grind
      | afterQuote key =>
          simp only [scan, Place.Reads, List.cons.injEq]
          split
          · rename_i closing
            simp [closing, map_cons_eq_ok_iff, items]
          · rename_i other
            simp [other]
      | afterBracket =>
          change _ ↔ Items (c :: rest) segments
          rw [scan, items_cons_iff, ← named, ← opened]
          grind

theorem parse_eq_ok_iff {path : String} {segments : List Segment} :
    parse path = .ok segments ↔ Denotes path segments :=
  scan_eq_ok_iff .start

/-- The reader accepts the texts of the grammar, with their steps in order. Any other text is told
back as it is, wherever it is used as a path, and nothing is written. -/
theorem parse_accepts_grammar (path : String) :
    (∀ segments, parse path = .ok segments ↔ Denotes path segments) ∧
      ((¬ ∃ segments, Denotes path segments) → ∃ reason : Malformed,
        parse path = .error reason ∧
          (∀ tree : Tree, tree.get path = .error (.invalidPath path reason.message)) ∧
          (∀ tree value : Tree,
            tree.set path value = ⟨tree, some (.invalidPath path reason.message)⟩) ∧
          ∀ config : Config, config.workloadRefsPath = path → config.validate =
            .error (.invalidWorkloadRefsPath (.invalidPath path reason.message))) := by
  refine ⟨fun segments => parse_eq_ok_iff, ?_⟩
  intro ungrammatical
  cases read : parse path with
  | ok segments => exact absurd ⟨segments, parse_eq_ok_iff.mp read⟩ ungrammatical
  | error reason =>
      refine ⟨reason, rfl, fun tree => ?_, fun tree value => ?_, ?_⟩
      · simp only [Tree.get, read]
      · simp only [Tree.set, read]
      · rintro config rfl
        simp only [Config.validate, read]

example : parse "a['.]'][007].b" =
    .ok [.field "a", .field ".]", .index 7, .field "b"] := by rfl

end Rollout.Path
