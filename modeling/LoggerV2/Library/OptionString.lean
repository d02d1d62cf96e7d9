import Mathlib.Data.List.DropRight
import LoggerV2.Library.Text

/-!
# Option strings

An option string is a sequence of `key=value` tokens separated by spaces; a value may be
enclosed in double quotes. `decode` reads one back: it splits at the spaces outside
quotes, takes the value after the first `=` and removes one enclosing pair of quotes.
`decode_trim_render_iff` says exactly which fields survive being rendered, trimmed and
decoded. Nothing here escapes a value, so a field can be lost.
-/

namespace Verification.OptionString

/-- The byte that separates options. -/
def space : UInt8 := 32

/-- The byte that encloses a value. -/
def quote : UInt8 := 34

/-- The byte between a key and its value. -/
def equals : UInt8 := 61

/-- `std::isspace` in the C locale. -/
def isSpace (byte : UInt8) : Bool := byte = 32 ∨ 9 ≤ byte ∧ byte ≤ 13

/-- Drop the white space at both ends. -/
def trim (text : Text) : Text := (text.dropWhile isSpace).rdropWhile isSpace

/-- A key that no part of the syntax can be mistaken for. -/
structure Key where
  text : Text
  nonempty : text ≠ []
  plain : ∀ byte ∈ text, byte ≠ quote ∧ byte ≠ equals ∧ isSpace byte = false

/-- A key with the text of its value, and whether the writer puts quotes around it. -/
structure Field where
  key : Key
  value : Text
  quoted : Bool

namespace Field

/-- What the writer puts after the `=`. -/
def raw (field : Field) : Text :=
  if field.quoted then quote :: (field.value ++ [quote]) else field.value

/-- The field as it is written. -/
def token (field : Field) : Text := field.key.text ++ equals :: field.raw

/-- What a reader should get back. -/
def pair (field : Field) : Text × Text := (field.key.text, field.value)

end Field

/-- Every field, each followed by a space. -/
def render (fields : List Field) : Text := fields.flatMap fun field => field.token ++ [space]

/-- Whether the next byte is inside quotes. -/
def toggle (inside : Bool) (byte : UInt8) : Bool := if byte = quote then !inside else inside

/-- Split at the spaces outside quotes: the first piece and the others. -/
def split : Bool → Text → Text × List Text
  | _, [] => ([], [])
  | inside, byte :: rest =>
    if byte = space ∧ inside = false then
      ([], (split false rest).1 :: (split false rest).2)
    else (byte :: (split (toggle inside byte) rest).1, (split (toggle inside byte) rest).2)

/-- The text begins and ends with different quote characters. -/
def Enclosed (value : Text) : Prop :=
  2 ≤ value.length ∧ value.head? = some quote ∧ value.getLast? = some quote

instance (value : Text) : Decidable (Enclosed value) :=
  inferInstanceAs (Decidable (_ ∧ _ ∧ _))

/-- Remove one enclosing pair of quotes. -/
def unquote (value : Text) : Text := if Enclosed value then value.tail.dropLast else value

/-- The key before the first `=` and the value after it. -/
def decodeToken (token : Text) : Text × Text :=
  (token.takeWhile (· ≠ equals), unquote (token.dropWhile (· ≠ equals)).tail)

/-- The tokens of an option string, decoded; empty pieces between spaces are no tokens. -/
def decode (text : Text) : List (Text × Text) :=
  (((split false text).1 :: (split false text).2).filter (· ≠ [])).map decodeToken

/-- No space of the text is outside quotes. -/
def Solid : Bool → Text → Prop
  | _, [] => True
  | inside, byte :: rest => ¬ (byte = space ∧ inside = false) ∧ Solid (toggle inside byte) rest

instance Solid.decidable : (inside : Bool) → (text : Text) → Decidable (Solid inside text)
  | _, [] => isTrue trivial
  | inside, byte :: rest =>
    have := Solid.decidable (toggle inside byte) rest
    inferInstanceAs (Decidable (_ ∧ Solid (toggle inside byte) rest))

/-- Whether the byte after the text is inside quotes. -/
def after (inside : Bool) (text : Text) : Bool := text.foldl toggle inside

/-- A field survives when its text has no space outside quotes, looks quoted only if the
writer quoted it, and either closes its quotes or, as the last one, ends in no white space. -/
def ReadsBack (last : Bool) (field : Field) : Prop :=
  Solid false field.raw ∧ (field.quoted = false → ¬ Enclosed field.value) ∧
    if last then field.raw.rdropWhile isSpace = field.raw else after false field.raw = false

instance (last : Bool) (field : Field) : Decidable (ReadsBack last field) :=
  inferInstanceAs (Decidable (_ ∧ _ ∧ _))

/-- Every field survives, the last one as such. -/
def AllReadBack : List Field → Prop
  | [] => True
  | field :: rest => ReadsBack rest.isEmpty field ∧ AllReadBack rest

section Splitting

variable {inside : Bool} {text more : Text}

/-- A text without a space outside quotes stays in its token. -/
theorem split_append (solid : Solid inside text) :
    split inside (text ++ more) = (text ++ (split (after inside text) more).1,
      (split (after inside text) more).2) := by
  induction text generalizing inside with
  | nil => rfl
  | cons byte rest ih =>
    rw [List.cons_append, split, if_neg solid.1, ih solid.2]
    rfl

/-- A text with a space outside quotes is split at the first one. -/
theorem exists_split (broken : ¬ Solid inside text) :
    ∃ front back, text = front ++ space :: back ∧
      ∀ more, (split inside (text ++ more)).1 = front := by
  induction text generalizing inside with
  | nil => exact absurd trivial broken
  | cons byte rest ih =>
    by_cases here : byte = space ∧ inside = false
    · obtain ⟨rfl, rfl⟩ := here
      exact ⟨[], rest, rfl, fun more => by rw [List.cons_append, split, if_pos ⟨rfl, rfl⟩]⟩
    · have later : ¬ Solid (toggle inside byte) rest := fun solid => broken ⟨here, solid⟩
      obtain ⟨front, back, rfl, first⟩ := ih later
      refine ⟨byte :: front, back, rfl, fun more => ?_⟩
      rw [List.cons_append, split, if_neg here, first]

theorem toggle_of_ne {byte : UInt8} (different : byte ≠ quote) : toggle inside byte = inside :=
  if_neg different

/-- A text without quotes and spaces is solid and leaves the quotes as they were. -/
theorem solid_of_plain (plain : ∀ byte ∈ text, byte ≠ quote ∧ byte ≠ space) :
    Solid inside text ∧ after inside text = inside := by
  induction text with
  | nil => exact ⟨trivial, rfl⟩
  | cons byte rest ih =>
    rw [List.forall_mem_cons] at plain
    obtain ⟨solid, same⟩ := ih plain.2
    refine ⟨⟨fun here => plain.1.2 here.1, ?_⟩, ?_⟩
    · rwa [toggle_of_ne plain.1.1]
    · rw [after, List.foldl_cons, toggle_of_ne plain.1.1]
      exact same

end Splitting

section Quotes

/-- Quotes that were added are taken off. -/
theorem unquote_quoted (value : Text) : unquote (quote :: (value ++ [quote])) = value := by
  have enclosed : Enclosed (quote :: (value ++ [quote])) :=
    ⟨by simp, rfl, by rw [← List.cons_append, List.getLast?_concat]⟩
  rw [unquote, if_pos enclosed, List.tail_cons, List.dropLast_concat]

/-- Taking quotes off makes nothing longer. -/
theorem length_unquote_le (value : Text) : (unquote value).length ≤ value.length := by
  rw [unquote]
  split
  · rw [List.length_dropLast, List.length_tail]
    omega
  · exact le_rfl

/-- At most two bytes are taken off. -/
theorem length_le_unquote (value : Text) : value.length ≤ (unquote value).length + 2 := by
  rw [unquote]
  split
  · rw [List.length_dropLast, List.length_tail]
    omega
  · omega

/-- Only a text that looks quoted loses anything. -/
theorem unquote_eq_self_iff {value : Text} : unquote value = value ↔ ¬ Enclosed value := by
  constructor
  · intro same enclosed
    have lengths := congrArg List.length same
    rw [unquote, if_pos enclosed, List.length_dropLast, List.length_tail] at lengths
    have := enclosed.1
    omega
  · exact fun notEnclosed => if_neg notEnclosed

/-- The raw text of a field reads back as its value unless it only looks quoted. -/
theorem unquote_raw_iff {field : Field} :
    unquote field.raw = field.value ↔ (field.quoted = false → ¬ Enclosed field.value) := by
  rw [Field.raw]
  cases field.quoted with
  | true => simp [unquote_quoted]
  | false => simpa using unquote_eq_self_iff

/-- What stands before a space outside quotes is not the whole value. -/
theorem unquote_front_ne {field : Field} {front back : Text}
    (raw : field.raw = front ++ space :: back) : unquote front ≠ field.value := by
  intro same
  have lengths := congrArg List.length same
  have bound := length_unquote_le front
  rw [Field.raw] at raw
  cases quoted : field.quoted with
  | false =>
    simp only [quoted, Bool.false_eq_true, if_false] at raw
    rw [raw, List.length_append, List.length_cons] at lengths
    omega
  | true =>
    simp only [quoted, if_true] at raw
    cases front with
    | nil => exact absurd (List.cons.inj raw).1 (by decide)
    | cons first front =>
      obtain ⟨rfl, tails⟩ := List.cons.inj raw
      change field.value ++ [quote] = front ++ space :: back at tails
      -- The closing quote is the last byte of `back`.
      obtain rfl | ⟨back, last, rfl⟩ := List.eq_nil_or_concat back
      · have ends := congrArg List.getLast? tails
        rw [List.getLast?_concat, List.getLast?_concat] at ends
        exact absurd ends (by decide)
      · have ends : field.value = front ++ space :: back := by
          have dropped := congrArg List.dropLast tails
          rwa [List.dropLast_concat, List.concat_eq_append, ← List.cons_append,
            ← List.append_assoc, List.dropLast_concat] at dropped
        rw [ends] at same lengths
        by_cases enclosed : Enclosed (quote :: front)
        · rw [unquote, if_pos enclosed] at lengths
          simp at lengths
          omega
        · rw [unquote, if_neg enclosed] at same lengths
          have counts := congrArg (List.count quote) same
          obtain rfl : back = [] := by
            simp at lengths
            exact lengths
          simp [quote, space] at counts

end Quotes

section Tokens

theorem Key.takeWhile_append (key : Key) (rest : Text) :
    (key.text ++ equals :: rest).takeWhile (· ≠ equals) = key.text := by
  rw [List.takeWhile_append_of_pos fun byte member => by simpa using (key.plain byte member).2.1]
  simp

theorem Key.dropWhile_append (key : Key) (rest : Text) :
    (key.text ++ equals :: rest).dropWhile (· ≠ equals) = equals :: rest := by
  rw [List.dropWhile_append_of_pos fun byte member => by simpa using (key.plain byte member).2.1]
  simp

/-- A token is read as its key and its unquoted value. -/
theorem decodeToken_append (key : Key) (value : Text) :
    decodeToken (key.text ++ equals :: value) = (key.text, unquote value) := by
  rw [decodeToken, key.takeWhile_append, key.dropWhile_append]
  rfl

/-- A key and its `=` never end a token and open no quotes. -/
theorem Key.split_append (key : Key) (inside : Bool) (rest : Text) :
    split inside (key.text ++ equals :: rest) =
      (key.text ++ equals :: (split inside rest).1, (split inside rest).2) := by
  have plain : ∀ byte ∈ key.text ++ [equals], byte ≠ quote ∧ byte ≠ space := by
    intro byte member
    rcases List.mem_append.mp member with inKey | isEquals
    · obtain ⟨notQuote, -, notSpace⟩ := key.plain byte inKey
      refine ⟨notQuote, ?_⟩
      rintro rfl
      exact absurd notSpace (by decide)
    · obtain rfl := List.mem_singleton.mp isEquals
      decide
  obtain ⟨solid, same⟩ := @solid_of_plain inside _ plain
  have whole := @OptionString.split_append inside _ rest solid
  rw [same] at whole
  simpa using whole

/-- The first token of an option string that begins with a key. -/
theorem decode_key_append (key : Key) (rest : Text) :
    decode (key.text ++ equals :: rest) = (key.text, unquote (split false rest).1) ::
      ((split false rest).2.filter (· ≠ [])).map decodeToken := by
  rw [decode, key.split_append, List.filter_cons_of_pos (by simp), List.map_cons,
    decodeToken_append]

/-- A token that closes its quotes is followed by the decoding of the rest. -/
theorem decode_key_solid (key : Key) {text : Text} (solid : Solid false text)
    (closed : after false text = false) (rest : Text) :
    decode (key.text ++ equals :: (text ++ space :: rest)) =
      (key.text, unquote text) :: decode rest := by
  have next : split false (space :: rest) = ([], (split false rest).1 :: (split false rest).2) := by
    rw [split, if_pos ⟨rfl, rfl⟩]
  rw [decode_key_append, OptionString.split_append solid, closed, next, List.append_nil]
  rfl

end Tokens

/-- An unquoted value without quotes and white space always survives. -/
theorem readsBack_of_plain (last : Bool) (key : Key) {value : Text}
    (plain : ∀ byte ∈ value, byte ≠ quote ∧ isSpace byte = false) :
    ReadsBack last ⟨key, value, false⟩ := by
  have inert : ∀ byte ∈ value, byte ≠ quote ∧ byte ≠ space := by
    intro byte member
    refine ⟨(plain byte member).1, ?_⟩
    rintro rfl
    exact absurd (plain space member).2 (by decide)
  obtain ⟨solid, closed⟩ := @solid_of_plain false value inert
  have kept : value.rdropWhile isSpace = value :=
    List.rdropWhile_eq_self_iff.mpr fun nonempty => by
      simp [(plain _ (List.getLast_mem nonempty)).2]
  refine ⟨solid, fun _ enclosed => ?_, ?_⟩
  · exact (plain quote (List.mem_of_mem_head? enclosed.2.1)).1 rfl
  · cases last
    · exact closed
    · exact kept

section Trimming

/-- Trimming stops at a byte that is kept. -/
theorem rdropWhile_append_cons {test : UInt8 → Bool} {front back : Text} {byte : UInt8}
    (kept : test byte = false) :
    (front ++ byte :: back).rdropWhile test = front ++ byte :: back.rdropWhile test := by
  have stop : (byte :: front.reverse).dropWhile test = byte :: front.reverse :=
    List.dropWhile_cons_of_neg (by simp [kept])
  rw [List.rdropWhile, List.reverse_append, List.reverse_cons, List.append_assoc,
    List.singleton_append, List.dropWhile_append, stop]
  split
  case isTrue empty =>
    rw [List.isEmpty_iff] at empty
    simp [List.rdropWhile, empty]
  case isFalse => simp [List.rdropWhile]

/-- Trimming on the right stops at a byte it keeps. -/
theorem rdropWhile_append {test : UInt8 → Bool} {front back : Text} {byte : UInt8}
    (member : byte ∈ back) (kept : test byte = false) :
    (front ++ back).rdropWhile test = front ++ back.rdropWhile test := by
  obtain ⟨before, rest, rfl⟩ := List.append_of_mem member
  rw [← List.append_assoc, rdropWhile_append_cons kept, rdropWhile_append_cons kept,
    List.append_assoc]

/-- What trimming leaves of the rendered fields: the last one loses its separator and the
white space at its end. -/
def joined : List Field → Text
  | [] => []
  | [field] => field.key.text ++ equals :: field.raw.rdropWhile isSpace
  | field :: next :: rest => field.token ++ space :: joined (next :: rest)

/-- At the end, only the last field is trimmed. -/
theorem rdropWhile_render (fields : List Field) :
    (render fields).rdropWhile isSpace = joined fields := by
  induction fields with
  | nil => rfl
  | cons field rest ih =>
    rw [render, List.flatMap_cons]
    cases rest with
    | nil =>
      rw [List.flatMap_nil, List.append_nil, List.rdropWhile_concat_pos _ _ _ (by decide),
        Field.token, joined, rdropWhile_append_cons (by decide)]
    | cons next rest =>
      have member : equals ∈ render (next :: rest) := by simp [render, Field.token]
      rw [← render, rdropWhile_append member (by decide), ih, joined, List.append_assoc,
        List.singleton_append]

/-- At the start there is a key, and nothing to trim. -/
theorem trim_render (fields : List Field) : trim (render fields) = joined fields := by
  have kept : (render fields).dropWhile isSpace = render fields := by
    cases fields with
    | nil => rfl
    | cons field rest =>
      rw [render, List.flatMap_cons, Field.token]
      cases text : field.key.text with
      | nil => exact absurd text field.key.nonempty
      | cons first text' =>
        have plain := field.key.plain first (text ▸ List.mem_cons_self)
        exact List.dropWhile_cons_of_neg (by simp [plain.2.2])
  rw [trim, kept, rdropWhile_render]

end Trimming

/-- Whatever follows, a token whose text does not close its quotes reads back too long. -/
theorem unquote_open_ne {field : Field} (solid : Solid false field.raw)
    (opened : after false field.raw = true) (key : Key) (rest : Text) :
    unquote (split false (field.raw ++ space :: (key.text ++ equals :: rest))).1 ≠
      field.value := by
  have first : (split false (field.raw ++ space :: (key.text ++ equals :: rest))).1 =
      field.raw ++ space :: (key.text ++ equals :: (split true rest).1) := by
    have notSplit : ¬ (space = space ∧ true = false) := by simp
    rw [split_append solid, opened, split, if_neg notSplit, toggle_of_ne (by decide),
      key.split_append]
  rw [first]
  intro same
  have lengths := congrArg List.length same
  have bound := length_le_unquote
    (field.raw ++ space :: (key.text ++ equals :: (split true rest).1))
  have atLeast : field.value.length ≤ field.raw.length := by
    rw [Field.raw]
    split
    · simp only [List.length_cons, List.length_append]
      omega
    · exact le_rfl
  have keyLength := List.length_pos_of_ne_nil key.nonempty
  simp only [List.length_append, List.length_cons] at bound
  omega

/-- A token is no longer than the text. -/
theorem length_split_le (inside : Bool) (text : Text) :
    (split inside text).1.length ≤ text.length := by
  induction text generalizing inside with
  | nil => exact le_rfl
  | cons byte rest ih =>
    rw [split]
    split
    · exact Nat.zero_le _
    · exact Nat.succ_le_succ (ih _)

/-- A text the writer quoted ends in no white space. -/
theorem rdropWhile_quoted {field : Field} (quoted : field.quoted = true) :
    field.raw.rdropWhile isSpace = field.raw := by
  rw [Field.raw, if_pos quoted, ← List.cons_append]
  exact List.rdropWhile_concat_neg _ _ _ (by decide)

/-- The last field, which trimming may shorten. -/
theorem decode_last_iff (field : Field) :
    decode (field.key.text ++ equals :: field.raw.rdropWhile isSpace) = [field.pair] ↔
      ReadsBack true field := by
  rw [decode_key_append, List.cons.injEq, Field.pair, Prod.mk.injEq]
  by_cases kept : field.raw.rdropWhile isSpace = field.raw
  · rw [kept]
    by_cases solid : Solid false field.raw
    · have whole := @split_append false field.raw [] solid
      rw [List.append_nil] at whole
      have first : (split false field.raw).1 = field.raw := by simp [whole, split]
      have rest : (split false field.raw).2 = [] := by simp [whole, split]
      rw [first, rest, unquote_raw_iff]
      simp [ReadsBack, solid, kept]
    · obtain ⟨front, back, raw, first⟩ := exists_split solid
      have here := first []
      rw [List.append_nil] at here
      rw [here]
      refine iff_of_false ?_ fun reads => solid reads.1
      rintro ⟨⟨-, same⟩, -⟩
      exact unquote_front_ne raw same
  · refine iff_of_false ?_ fun reads => kept (by simpa using reads.2.2)
    rintro ⟨⟨-, same⟩, -⟩
    have plain : field.quoted = false := by
      by_contra quoted
      exact kept (rdropWhile_quoted (by simpa using quoted))
    have isValue : field.raw = field.value := by simp [Field.raw, plain]
    have shorter : (field.raw.rdropWhile isSpace).length < field.raw.length := by
      have isPrefix := List.rdropWhile_prefix isSpace field.raw
      exact lt_of_le_of_ne isPrefix.length_le fun lengths => kept (isPrefix.eq_of_length lengths)
    have lengths := congrArg List.length same
    have unquoted := length_unquote_le (split false (field.raw.rdropWhile isSpace)).1
    have piece := length_split_le false (field.raw.rdropWhile isSpace)
    rw [← isValue] at lengths
    omega

/-- Joined fields begin with the first key. -/
theorem exists_joined_cons (field : Field) (rest : List Field) :
    ∃ more, joined (field :: rest) = field.key.text ++ equals :: more := by
  cases rest with
  | nil => exact ⟨_, rfl⟩
  | cons next rest => exact ⟨_, by rw [joined, Field.token, List.append_assoc, List.cons_append]⟩

/-- Joined fields are read back exactly when every one survives. -/
theorem decode_joined_iff (fields : List Field) :
    decode (joined fields) = fields.map Field.pair ↔ AllReadBack fields := by
  induction fields with
  | nil => exact iff_of_true rfl trivial
  | cons field rest ih =>
    cases rest with
    | nil => simpa [AllReadBack, joined] using decode_last_iff field
    | cons next rest =>
      rw [joined, Field.token, AllReadBack, ← ih, List.append_assoc, List.cons_append]
      by_cases solid : Solid false field.raw
      · cases closed : after false field.raw
        case false =>
          rw [decode_key_solid field.key solid closed, List.map_cons, List.cons.injEq, Field.pair,
            Prod.mk.injEq, unquote_raw_iff]
          simp [ReadsBack, solid, closed]
        case true =>
          obtain ⟨more, following⟩ := exists_joined_cons next rest
          rw [following, decode_key_append, List.map_cons, List.cons.injEq, Field.pair,
            Prod.mk.injEq]
          refine iff_of_false ?_ fun reads => ?_
          · rintro ⟨⟨-, same⟩, -⟩
            exact unquote_open_ne solid closed next.key more same
          · have ends := reads.1.2.2
            simp [closed] at ends
      · obtain ⟨front, back, raw, first⟩ := exists_split solid
        rw [decode_key_append, first, List.map_cons, List.cons.injEq, Field.pair, Prod.mk.injEq]
        refine iff_of_false ?_ fun reads => solid reads.1.1
        rintro ⟨⟨-, same⟩, -⟩
        exact unquote_front_ne raw same

/-- The fields come back from a trimmed option string exactly when every one survives. -/
theorem decode_trim_render_iff (fields : List Field) :
    decode (trim (render fields)) = fields.map Field.pair ↔ AllReadBack fields := by
  rw [trim_render, decode_joined_iff]

end Verification.OptionString
