import Aorta.Library.Json

/-!
# A reader of JSON texts

`decode` gives back what a JSON text denotes, so a text denotes one value only. A
value is read up to the delimiter behind it, a nested one with less fuel.
-/

namespace Aorta.Library.Json

open Aorta.Library.Ascii Aorta.Library.Decimal

set_option autoImplicit false

def skip (text : Bytes) : Bytes := text.dropWhile isInsignificant

def readShort (letter : Byte) (rest : Bytes) : Option (Piece × Bytes) :=
  match known : shortValue letter with
  | some value => some (.short letter value known, rest)
  | none => none

def readUnicode (rest : Bytes) : Option (Piece × Bytes) :=
  if valid : (rest.take 4).length = 4 ∧ ∀ digit ∈ rest.take 4, isXDigit digit then
    some (.unicode (rest.take 4) valid.1 valid.2, rest.drop 4)
  else none

def readEscape : Bytes → Option (Piece × Bytes)
  | [] => none
  | letter :: rest => if letter = 117 then readUnicode rest else readShort letter rest

def readPiece : Bytes → Option (Piece × Bytes)
  | [] => none
  | byte :: rest =>
      if byte = 92 then readEscape rest
      else if plain : isPlain byte = true then some (.plain byte plain, rest)
      else none

/-- The pieces of a string up to its closing quotation mark. -/
def readPieces : Nat → Bytes → Option (List Piece × Bytes)
  | 0, _ => none
  | fuel + 1, text =>
      if text.head? = some 34 then some ([], text.tail)
      else do
        let (piece, rest) ← readPiece text
        let (pieces, rest) ← readPieces fuel rest
        some (piece :: pieces, rest)

def readQuoted (text : Bytes) : Option (List Piece × Bytes) :=
  if text.head? = some 34 then readPieces text.length text.tail else none

/-- The parts of an array or an object up to its closing bracket. -/
def readParts {Part : Type} (readPart : Bytes → Option (Part × Bytes)) (close : Byte) :
    Nat → Bytes → Option (List Part × Bytes)
  | 0, _ => none
  | fuel + 1, text => do
      let (part, rest) ← readPart text
      match rest with
      | [] => none
      | byte :: rest =>
          if byte = close then some ([part], rest)
          else if byte = 44 then do
            let (parts, rest) ← readParts readPart close fuel rest
            some (part :: parts, rest)
          else none

def readEnclosed {Part : Type} (readPart : Bytes → Option (Part × Bytes)) (close : Byte)
    (text : Bytes) : Option (List Part × Bytes) :=
  if (skip text).head? = some close then some ([], (skip text).tail)
  else readParts readPart close text.length text

def readPadded (readValue : Bytes → Option (Value × Bytes)) (text : Bytes) :
    Option (Value × Bytes) := do
  let (value, rest) ← readValue (skip text)
  some (value, skip rest)

def readMember (readValue : Bytes → Option (Value × Bytes)) (text : Bytes) :
    Option ((Bytes × Value) × Bytes) := do
  let (name, rest) ← readQuoted (skip text)
  if (skip rest).head? = some 58 then do
    let (value, rest) ← readPadded readValue (skip rest).tail
    some ((decoded name, value), rest)
  else none

/-- A value that is neither a string nor an array nor an object. -/
def readWord (text : Bytes) : Option (Value × Bytes) :=
  if (ascii "null").isPrefixOf text then some (.null, text.drop 4)
  else if (ascii "true").isPrefixOf text then some (.bool true, text.drop 4)
  else if (ascii "false").isPrefixOf text then some (.bool false, text.drop 5)
  else
    let literal := text.takeWhile isNumberByte
    if isNumeral literal then some (.number (numberOf literal), text.drop literal.length) else none

def read : Nat → Bytes → Option (Value × Bytes)
  | 0, _ => none
  | fuel + 1, text =>
      if text.head? = some 34 then do
        let (pieces, rest) ← readQuoted text
        some (.string (decoded pieces), rest)
      else if text.head? = some 91 then do
        let (items, rest) ← readEnclosed (readPadded (read fuel)) 93 text.tail
        some (.array items, rest)
      else if text.head? = some 123 then do
        let (members, rest) ← readEnclosed (readMember (read fuel)) 125 text.tail
        some (.object members, rest)
      else readWord text

def decode (text : Bytes) : Option Value := do
  let (value, rest) ← readPadded (read text.length) text
  if rest.isEmpty then some value else none

section Lexis

theorem skip_blank (blank : Blank) {text : Bytes}
    (starts : ∀ byte ∈ text.head?, isInsignificant byte = false) :
    skip (blank.val ++ text) = text := by
  unfold skip
  rw [List.dropWhile_append_of_pos blank.property]
  cases text with
  | nil => rfl
  | cons byte text => exact List.dropWhile_cons_of_neg (by simp [starts byte rfl])

theorem read_short {letter value : Byte} (known : shortValue letter = some value)
    (rest : Bytes) : readShort letter rest = some (.short letter value known, rest) := by
  unfold readShort
  split
  · next other same =>
      cases known.symm.trans same
      rfl
  · next missing => cases known.symm.trans missing

theorem read_escape_short {letter value : Byte} (known : shortValue letter = some value)
    (rest : Bytes) : readEscape (letter :: rest) = some (.short letter value known, rest) := by
  have notUnicode : letter ≠ 117 := by
    rintro rfl
    cases known
  rw [readEscape, if_neg notUnicode]
  exact read_short known rest

theorem read_escape_unicode {digits : Bytes} (four : digits.length = 4)
    (hex : ∀ digit ∈ digits, isXDigit digit) (rest : Bytes) :
    readEscape (117 :: (digits ++ rest)) = some (.unicode digits four hex, rest) := by
  have front : (digits ++ rest).take 4 = digits := List.take_left' four
  have behind : (digits ++ rest).drop 4 = rest := List.drop_left' four
  unfold readEscape readUnicode
  simp only [if_true, front, behind]
  rw [dif_pos ⟨four, hex⟩]

theorem read_piece (piece : Piece) (rest : Bytes) :
    readPiece (piece.text ++ rest) = some (piece, rest) := by
  cases piece with
  | plain byte isPlain =>
      have notEscape : byte ≠ 92 := by
        rintro rfl
        exact absurd isPlain (by decide)
      simp only [Piece.text, List.singleton_append, readPiece, if_neg notEscape, dif_pos isPlain]
  | short letter value known => exact read_escape_short known rest
  | unicode digits four hex => exact read_escape_unicode four hex rest

/-- No piece starts with a quotation mark, so the first one closes the string. -/
theorem piece_head (piece : Piece) (rest : Bytes) : (piece.text ++ rest).head? ≠ some 34 := by
  cases piece with
  | plain byte isPlain =>
      rintro same
      cases same
      exact absurd isPlain (by decide)
  | short letter value known => simp [Piece.text]
  | unicode digits four hex => simp [Piece.text]

theorem read_pieces (pieces : List Piece) {fuel : Nat} (enough : pieces.length < fuel)
    (rest : Bytes) : readPieces fuel (raw pieces ++ 34 :: rest) = some (pieces, rest) := by
  induction pieces generalizing fuel with
  | nil =>
      cases fuel with
      | zero => cases enough
      | succ fuel => rfl
  | cons piece pieces ih =>
      cases fuel with
      | zero => cases enough
      | succ fuel =>
          have later := ih (Nat.lt_of_succ_lt_succ enough)
          have text : raw (piece :: pieces) ++ 34 :: rest =
              piece.text ++ (raw pieces ++ 34 :: rest) := by
            rw [raw, List.flatMap_cons, List.append_assoc]
            rfl
          rw [text, readPieces, if_neg (piece_head piece _), read_piece]
          simp only [Option.bind_eq_bind, Option.bind_some, later]

theorem piece_text_pos (piece : Piece) : 0 < piece.text.length := by
  cases piece with
  | plain byte isPlain => exact Nat.one_pos
  | short letter value known => exact Nat.two_pos
  | unicode digits four hex => exact Nat.succ_pos _

theorem pieces_length_le (pieces : List Piece) : pieces.length ≤ (raw pieces).length := by
  induction pieces with
  | nil => exact Nat.le_refl 0
  | cons piece pieces ih =>
      have first := piece_text_pos piece
      rw [raw, List.flatMap_cons, List.length_append, List.length_cons]
      unfold raw at ih
      omega

theorem read_quoted (pieces : List Piece) (rest : Bytes) :
    readQuoted (quoted pieces ++ rest) = some (pieces, rest) := by
  have text : quoted pieces ++ rest = 34 :: (raw pieces ++ 34 :: rest) := by simp [quoted]
  have enough : pieces.length < (34 :: (raw pieces ++ 34 :: rest)).length := by
    have shorter := pieces_length_le pieces
    simp only [List.length_cons, List.length_append]
    omega
  rw [text, readQuoted, List.head?_cons, if_pos rfl]
  exact read_pieces pieces enough rest

end Lexis

section Parts

variable {Part : Type} {readPart : Bytes → Option (Part × Bytes)} {close : Byte}

/-- A part is read up to the comma or the bracket behind it. -/
def ReadsPart (readPart : Bytes → Option (Part × Bytes)) (close : Byte) (text : Bytes)
    (part : Part) : Prop :=
  ∀ delimiter rest, delimiter = close ∨ delimiter = 44 →
    readPart (text ++ delimiter :: rest) = some (part, delimiter :: rest)

theorem read_parts {Source : Type} (text : Source → Bytes) (part : Source → Part)
    (comma : close ≠ 44) {sources : List Source} (some : sources ≠ [])
    (each : ∀ source ∈ sources, ReadsPart readPart close (text source) (part source))
    {fuel : Nat} (enough : sources.length ≤ fuel) (blank rest : Bytes) :
    readParts readPart close fuel (inside blank (sources.map text) ++ close :: rest) =
      .some (sources.map part, rest) := by
  induction sources generalizing fuel with
  | nil => exact absurd rfl some
  | cons source sources ih =>
      have first := each source List.mem_cons_self
      cases fuel with
      | zero => cases enough
      | succ fuel =>
          cases sources with
          | nil =>
              simp only [List.map_cons, List.map_nil, inside, readParts]
              rw [first close rest (.inl rfl)]
              simp only [Option.bind_eq_bind, Option.bind_some, if_true]
          | cons next sources =>
              have later := ih (List.cons_ne_nil next sources)
                (fun other member => each other (List.mem_cons_of_mem source member))
                (Nat.le_of_succ_le_succ enough)
              simp only [List.map_cons] at later
              simp only [List.map_cons, inside, readParts, List.append_assoc, List.cons_append]
              rw [first 44 _ (.inr rfl)]
              simp only [Option.bind_eq_bind, Option.bind_some, if_neg comma.symm, if_true, later]

theorem parts_length_le (blank : Bytes) (parts : List Bytes) :
    parts.length ≤ (inside blank parts).length + 1 := by
  induction parts with
  | nil => exact Nat.zero_le _
  | cons part parts ih =>
      cases parts with
      | nil => simp
      | cons next parts =>
          simp only [inside, List.length_append, List.length_cons] at ih ⊢
          omega

theorem read_enclosed {Source : Type} (text : Source → Bytes) (part : Source → Part)
    (comma : close ≠ 44) (blank : Blank) (closes : isInsignificant close = false)
    (sources : List Source)
    (opens : ∀ source ∈ sources, ∀ rest, (skip (text source ++ rest)).head? ≠ some close)
    (each : ∀ source ∈ sources, ReadsPart readPart close (text source) (part source))
    (rest : Bytes) :
    readEnclosed readPart close (inside blank.val (sources.map text) ++ close :: rest) =
      some (sources.map part, rest) := by
  cases sources with
  | nil =>
      have skipped : skip (blank.val ++ close :: rest) = close :: rest := by
        apply skip_blank
        intro byte head
        cases head
        exact closes
      rw [List.map_nil, inside, readEnclosed, skipped, List.head?_cons, if_pos rfl]
      rfl
  | cons source sources =>
      have notClosed : (skip (inside blank.val ((source :: sources).map text) ++
          close :: rest)).head? ≠ some close := by
        cases sources with
        | nil => exact opens source List.mem_cons_self _
        | cons next sources =>
            have first := opens source List.mem_cons_self
            simp only [List.map_cons, inside, List.append_assoc]
            exact first _
      have enough := parts_length_le blank.val ((source :: sources).map text)
      rw [readEnclosed, if_neg notClosed]
      apply read_parts text part comma (List.cons_ne_nil source sources) each
      rw [List.length_map] at enough
      simp only [List.length_append, List.length_cons] at enough ⊢
      omega

end Parts

section Values

/-- What stands behind a value: nothing, or a byte that ends numerals. -/
def Delimited (rest : Bytes) : Prop := ∀ byte ∈ rest.head?, isNumberByte byte = false

/-- The value is read up to any delimiter behind it. -/
def Reads (readValue : Bytes → Option (Value × Bytes)) (text : Bytes) (value : Value) : Prop :=
  ∀ rest, Delimited rest → readValue (text ++ rest) = some (value, rest)

/-- The first byte of a value. -/
def isFirstByte (byte : Byte) : Bool :=
  isNumberByte byte || [110, 116, 102, 34, 91, 123].contains byte

def Starts (text : Bytes) : Prop := ∃ first rest, text = first :: rest ∧ isFirstByte first = true

theorem numeral_head {literal : Bytes} (isNumeral : isNumeral literal = true) :
    ∃ first rest, literal = first :: rest ∧ isNumberByte first = true := by
  cases literal with
  | nil => cases isNumeral
  | cons first rest => exact ⟨first, rest, rfl, numeral_bytes isNumeral first List.mem_cons_self⟩

theorem writes_starts {text : Bytes} {value : Value} (writes : Writes text value) :
    Starts text := by
  cases writes with
  | null => exact ⟨110, _, rfl, rfl⟩
  | bool truth =>
      cases truth with
      | true => exact ⟨116, _, rfl, rfl⟩
      | false => exact ⟨102, _, rfl, rfl⟩
  | number isNumeral =>
      obtain ⟨first, rest, same, isNumber⟩ := numeral_head isNumeral
      exact ⟨first, rest, same, by simp [isFirstByte, isNumber]⟩
  | string pieces => exact ⟨34, _, rfl, rfl⟩
  | array blank items each => exact ⟨91, _, rfl, rfl⟩
  | object blank members each => exact ⟨123, _, rfl, rfl⟩

theorem first_byte_significant {byte : Byte} (first : isFirstByte byte = true) :
    isInsignificant byte = false ∧ byte ≠ 93 := by
  constructor
  · by_contra blank
    simp only [isInsignificant, Bool.or_eq_false_iff, beq_eq_false_iff_ne, not_and_or,
      not_not] at blank
    rcases blank with ((rfl | rfl) | rfl) | rfl
    all_goals cases first
  · rintro rfl
    cases first

theorem starts_significant {text : Bytes} (starts : Starts text) (rest : Bytes) :
    ∀ byte ∈ (text ++ rest).head?, isInsignificant byte = false := by
  obtain ⟨first, behind, same, isFirst⟩ := starts
  subst same
  intro byte head
  cases head
  exact (first_byte_significant isFirst).1

/-- A text that ends, or goes on with a comma or a closing bracket. -/
def Ends (rest : Bytes) : Prop :=
  ∀ byte ∈ rest.head?, isNumberByte byte = false ∧ isInsignificant byte = false

theorem ends_delimited {rest : Bytes} (ends : Ends rest) (blank : Blank) :
    Delimited (blank.val ++ rest) := by
  intro byte head
  cases same : blank.val with
  | nil =>
      rw [same, List.nil_append] at head
      exact (ends byte head).1
  | cons first others =>
      rw [same] at head
      cases head
      have isBlank := blank.property byte (same ▸ List.mem_cons_self)
      simp only [isInsignificant, Bool.or_eq_true, beq_iff_eq] at isBlank
      rcases isBlank with ((rfl | rfl) | rfl) | rfl
      all_goals rfl

variable {readValue : Bytes → Option (Value × Bytes)}

theorem read_padded {item : Item} (reads : Reads readValue item.text item.value)
    (starts : Starts item.text) {rest : Bytes} (ends : Ends rest) :
    readPadded readValue (item.padded ++ rest) = some (item.value, rest) := by
  have text : item.padded ++ rest =
      item.before.val ++ (item.text ++ (item.behind.val ++ rest)) := by
    simp only [Item.padded, List.append_assoc]
  have behind : skip (item.behind.val ++ rest) = rest :=
    skip_blank item.behind fun byte head => (ends byte head).2
  rw [readPadded, text, skip_blank item.before (starts_significant starts _),
    reads _ (ends_delimited ends item.behind)]
  simp only [Option.bind_eq_bind, Option.bind_some, behind]

theorem read_member {member : Member} (reads : Reads readValue member.item.text member.item.value)
    (starts : Starts member.item.text) {rest : Bytes} (ends : Ends rest) :
    readMember readValue (member.padded ++ rest) = some (member.entry, rest) := by
  have text : member.padded ++ rest = member.before.val ++ (quoted member.name ++
      (member.behindName.val ++ (58 :: (member.item.padded ++ rest)))) := by
    simp only [Member.padded, Member.head, List.append_assoc, List.cons_append]
  have front : skip (member.before.val ++ (quoted member.name ++
      (member.behindName.val ++ (58 :: (member.item.padded ++ rest))))) =
      quoted member.name ++ (member.behindName.val ++ (58 :: (member.item.padded ++ rest))) := by
    apply skip_blank
    intro byte head
    cases head
    rfl
  have colon : skip (member.behindName.val ++ 58 :: (member.item.padded ++ rest)) =
      58 :: (member.item.padded ++ rest) := by
    apply skip_blank
    intro byte head
    cases head
    rfl
  rw [readMember, text, front, read_quoted]
  simp only [Option.bind_eq_bind, Option.bind_some, colon, List.head?_cons, if_true,
    List.tail_cons, read_padded reads starts ends]
  rfl

theorem delimiter_ends {close delimiter : Byte} (closes : close = 93 ∨ close = 125)
    (isDelimiter : delimiter = close ∨ delimiter = 44) (rest : Bytes) :
    Ends (delimiter :: rest) := by
  intro byte head
  cases head
  rcases isDelimiter with rfl | rfl
  · rcases closes with rfl | rfl
    all_goals exact ⟨rfl, rfl⟩
  · exact ⟨rfl, rfl⟩

theorem read_word_null (rest : Bytes) :
    readWord (ascii "null" ++ rest) = some (.null, rest) := by
  unfold readWord
  rw [if_pos (by rfl)]
  rfl

theorem read_word_bool (truth : Bool) (rest : Bytes) :
    readWord ((if truth then ascii "true" else ascii "false") ++ rest) =
      some (.bool truth, rest) := by
  unfold readWord
  cases truth with
  | true =>
      rw [if_neg (by simp [ascii]), if_pos (by rfl)]
      rfl
  | false =>
      rw [if_neg (by simp [ascii]), if_neg (by simp [ascii]), if_pos (by rfl)]
      rfl

theorem read_word_number {literal rest : Bytes} (numeral : isNumeral literal = true)
    (delimited : Delimited rest) :
    readWord (literal ++ rest) = some (.number (numberOf literal), rest) := by
  obtain ⟨first, others, same, isNumber⟩ := numeral_head numeral
  have otherWord : ∀ (word : Bytes) letter, word.head? = some letter →
      isNumberByte letter = false → ¬ word.isPrefixOf (literal ++ rest) = true := by
    intro word letter head isLetter starts
    cases word with
    | nil => cases head
    | cons other word =>
        cases head
        rw [same, List.cons_append, List.isPrefixOf_cons_cons, Bool.and_eq_true,
          beq_iff_eq] at starts
        rw [starts.1, isNumber] at isLetter
        cases isLetter
  have front : (literal ++ rest).takeWhile isNumberByte = literal := by
    rw [List.takeWhile_append_of_pos (numeral_bytes numeral)]
    cases rest with
    | nil => exact List.append_nil literal
    | cons byte rest =>
        rw [List.takeWhile_cons_of_neg (by simp [delimited byte rfl]), List.append_nil]
  unfold readWord
  rw [if_neg (otherWord _ 110 rfl rfl), if_neg (otherWord _ 116 rfl rfl),
    if_neg (otherWord _ 102 rfl rfl)]
  simp only [front, numeral, if_true, List.drop_left]

theorem read_of_word {text rest : Bytes} {value : Value} (fuel : Nat) {first : Byte}
    (head : text.head? = some first) (other : first ≠ 34 ∧ first ≠ 91 ∧ first ≠ 123)
    (reads : readWord text = some (value, rest)) : read (fuel + 1) text = some (value, rest) := by
  obtain ⟨noString, noArray, noObject⟩ := other
  rw [read, head, if_neg (mt Option.some.inj noString), if_neg (mt Option.some.inj noArray),
    if_neg (mt Option.some.inj noObject)]
  exact reads

theorem number_byte_other {byte : Byte} (isNumber : isNumberByte byte = true) :
    byte ≠ 34 ∧ byte ≠ 91 ∧ byte ≠ 123 := by
  refine ⟨?_, ?_, ?_⟩
  all_goals
    rintro rfl
    cases isNumber

theorem read_array {items : List Item} (blank : Blank) {fuel : Nat}
    (starts : ∀ item ∈ items, Starts item.text)
    (each : ∀ item ∈ items, Reads (read fuel) item.text item.value) (rest : Bytes) :
    read (fuel + 1) (arrayText blank items ++ rest) =
      some (.array (items.map Item.value), rest) := by
  have text : arrayText blank items ++ rest =
      91 :: (inside blank.val (items.map Item.padded) ++ 93 :: rest) := by simp [arrayText]
  have opens : ∀ item ∈ items, ∀ rest, (skip (item.padded ++ rest)).head? ≠ some 93 := by
    intro item member rest
    have significant := starts_significant (starts item member)
    obtain ⟨first, others, same, isFirst⟩ := starts item member
    simp only [Item.padded, List.append_assoc]
    rw [skip_blank item.before (significant _), same]
    exact mt Option.some.inj (first_byte_significant isFirst).2
  have parts := read_enclosed Item.padded Item.value (by decide) blank (by decide) items opens
    (fun item member delimiter rest isDelimiter => read_padded (each item member)
      (starts item member) (delimiter_ends (.inl rfl) isDelimiter rest)) rest
  rw [text, read, List.head?_cons, if_neg (by decide), if_pos rfl, List.tail_cons, parts]
  rfl

theorem read_object {members : List Member} (blank : Blank) {fuel : Nat}
    (starts : ∀ member ∈ members, Starts member.item.text)
    (each : ∀ member ∈ members, Reads (read fuel) member.item.text member.item.value)
    (rest : Bytes) :
    read (fuel + 1) (objectText blank members ++ rest) =
      some (.object (members.map Member.entry), rest) := by
  have text : objectText blank members ++ rest =
      123 :: (inside blank.val (members.map Member.padded) ++ 125 :: rest) := by
    simp [objectText]
  have opens : ∀ member ∈ members, ∀ rest,
      (skip (member.padded ++ rest)).head? ≠ some 125 := by
    intro member _ rest
    have front : skip (member.padded ++ rest) = quoted member.name ++
        (member.behindName.val ++ (58 :: (member.item.padded ++ rest))) := by
      simp only [Member.padded, Member.head, List.append_assoc, List.cons_append]
      apply skip_blank
      intro byte head
      cases head
      rfl
    rw [front]
    exact mt Option.some.inj (by decide)
  have parts := read_enclosed Member.padded Member.entry (by decide) blank (by decide) members
    opens (fun member inMembers delimiter rest isDelimiter => read_member (each member inMembers)
      (starts member inMembers) (delimiter_ends (.inr rfl) isDelimiter rest)) rest
  rw [text, read, List.head?_cons, if_neg (by decide), if_neg (by decide), if_pos rfl,
    List.tail_cons, parts]
  rfl

theorem reads_of_fuel {text : Bytes} {value : Value} (starts : Starts text) {fuel : Nat}
    (enough : text.length ≤ fuel)
    (each : ∀ fuel, text.length ≤ fuel + 1 → Reads (read (fuel + 1)) text value) :
    Reads (read fuel) text value := by
  obtain ⟨first, rest, same, _⟩ := starts
  cases fuel with
  | zero =>
      rw [same] at enough
      cases enough
  | succ fuel => exact each fuel enough

/-- Fuel for the length of the text is enough: each part is shorter. -/
theorem writes_read {text : Bytes} {value : Value} (writes : Writes text value) :
    ∀ fuel, text.length ≤ fuel + 1 → Reads (read (fuel + 1)) text value := by
  induction writes with
  | null =>
      intro fuel _ rest _
      have head : (ascii "null" ++ rest).head? = some 110 := rfl
      exact read_of_word fuel head (by decide) (read_word_null rest)
  | bool truth =>
      intro fuel _ rest _
      cases truth with
      | true =>
          have head : (ascii "true" ++ rest).head? = some 116 := rfl
          exact read_of_word fuel head (by decide) (read_word_bool true rest)
      | false =>
          have head : (ascii "false" ++ rest).head? = some 102 := rfl
          exact read_of_word fuel head (by decide) (read_word_bool false rest)
  | @number literal numeral =>
      intro fuel _ rest delimited
      obtain ⟨first, others, same, isNumber⟩ := numeral_head numeral
      have head : (literal ++ rest).head? = some first := by
        rw [same]
        rfl
      exact read_of_word fuel head (number_byte_other isNumber) (read_word_number numeral delimited)
  | string pieces =>
      intro fuel _ rest _
      have head : (quoted pieces ++ rest).head? = some 34 := rfl
      rw [read, if_pos head, read_quoted]
      rfl
  | array blank items each ih =>
      intro fuel enough rest _
      apply read_array blank fun item member => writes_starts (each item member)
      intro item member
      have shorter : item.text.length ≤ fuel := by
        have part := (part_within blank.val
          (List.mem_map_of_mem (f := Item.padded) member)).length_le
        simp only [arrayText, Item.padded, List.length_append, List.length_cons,
          List.length_nil] at enough part
        omega
      exact reads_of_fuel (writes_starts (each item member)) shorter (ih item member)
  | object blank members each ih =>
      intro fuel enough rest _
      apply read_object blank fun member inMembers => writes_starts (each member inMembers)
      intro member inMembers
      have shorter : member.item.text.length ≤ fuel := by
        have part := (part_within blank.val
          (List.mem_map_of_mem (f := Member.padded) inMembers)).length_le
        simp only [objectText, Member.padded, Item.padded, List.length_append, List.length_cons,
          List.length_nil] at enough part
        omega
      exact reads_of_fuel (writes_starts (each member inMembers)) shorter (ih member inMembers)

theorem writes_unique {text : Bytes} {first second : Value} (one : Writes text first)
    (other : Writes text second) : first = second := by
  have enough := Nat.le_succ text.length
  have reads := writes_read one text.length enough [] nofun
  have alsoReads := writes_read other text.length enough [] nofun
  have same := Option.some.inj (reads.symm.trans alsoReads)
  exact (Prod.mk.inj same).1

theorem denotes_decode {text : Bytes} {value : Value} (denotes : Denotes text value) :
    decode text = some value := by
  obtain ⟨_, item, writes, same, isValue⟩ := denotes
  subst same isValue
  have starts := writes_starts writes
  have shorter : item.text.length ≤ item.padded.length := by
    simp only [Item.padded, List.length_append]
    omega
  have ends : Ends [] := by simp [Ends]
  have reads := read_padded (reads_of_fuel starts shorter (writes_read writes)) starts ends
  rw [List.append_nil] at reads
  rw [decode, reads]
  rfl

theorem denotes_unique {text : Bytes} {first second : Value} (one : Denotes text first)
    (other : Denotes text second) : first = second := by
  have same := (denotes_decode one).symm.trans (denotes_decode other)
  exact Option.some.inj same

end Values

end Aorta.Library.Json
