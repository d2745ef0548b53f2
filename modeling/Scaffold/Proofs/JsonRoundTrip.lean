import Mathlib.Data.List.Forall2
import Scaffold.Json.Parser
import Scaffold.Proofs.JsonNumerals

/-!
# JSON that is written and read again

The pretty text of a value is read as the value itself, but for two things: a real number becomes
what its shortest decimal is read as, and a value that is nested too deeply is refused.
-/

namespace Scaffold

namespace Fields

variable {key : String} {fields : Fields} {w : Json}

theorem insert_of_notMem (hnew : key ∉ fields.map Prod.fst) (w : Json) :
    insert key w fields = fields ++ [(key, w)] := by
  induction fields with
  | nil => rfl
  | cons field rest ih =>
      obtain ⟨name, x⟩ := field
      simp only [List.map_cons, List.mem_cons, not_or] at hnew
      rw [insert, if_neg (Ne.symm hnew.1), ih hnew.2, List.cons_append]

theorem mem_insert {field : String × Json} (hfield : field ∈ insert key w fields) :
    field ∈ fields ∨ field = (key, w) := by
  induction fields with
  | nil => exact Or.inr (by simpa [insert] using hfield)
  | cons first rest ih =>
      obtain ⟨name, x⟩ := first
      rw [insert] at hfield
      split at hfield
      next hname =>
        subst hname
        rcases List.mem_cons.mp hfield with rfl | hrest
        · exact Or.inr rfl
        · exact Or.inl (List.mem_cons_of_mem _ hrest)
      next =>
        rcases List.mem_cons.mp hfield with rfl | hrest
        · exact Or.inl (by simp)
        · rcases ih hrest with hold | hnew
          · exact Or.inl (List.mem_cons_of_mem _ hold)
          · exact Or.inr hnew

theorem all_insert {P : Json → Prop} (hfields : ∀ field ∈ fields, P field.2) (hw : P w) :
    ∀ field ∈ insert key w fields, P field.2 := by
  intro field hfield
  rcases mem_insert hfield with hold | rfl
  · exact hfields field hold
  · exact hw

theorem keys_insert (key : String) (w : Json) (fields : Fields) :
    (insert key w fields).map Prod.fst =
      if key ∈ fields.map Prod.fst then fields.map Prod.fst else fields.map Prod.fst ++ [key] := by
  induction fields with
  | nil => simp [insert]
  | cons first rest ih =>
      obtain ⟨name, x⟩ := first
      rw [insert]
      by_cases hname : name = key
      · simp [hname]
      · rw [if_neg hname, List.map_cons, ih]
        by_cases hmem : key ∈ rest.map Prod.fst
        · simp [hmem]
        · have hnew : key ∉ ((name, x) :: rest).map Prod.fst := by
            simpa [Ne.symm hname] using hmem
          rw [if_neg hmem, if_neg hnew]
          rfl

theorem nodup_keys_insert (hkeys : (fields.map Prod.fst).Nodup) :
    ((insert key w fields).map Prod.fst).Nodup := by
  rw [keys_insert]
  split
  next => exact hkeys
  next hnew => simpa [List.nodup_append, hkeys] using fun x hx => ne_of_mem_of_not_mem hx hnew

end Fields

namespace Json

/-! ### Strings -/

theorem hexValue?_hexDigit {n : Nat} (hn : n < 16) : hexValue? (hexDigit n) = some n := by
  interval_cases n <;> rfl

theorem readUnicodeEscape_control {c : Char} (hcontrol : c.toNat < 32) (rest : List Char) :
    readUnicodeEscape
        ('0' :: '0' :: hexDigit (c.toNat / 16) :: hexDigit (c.toNat % 16) :: rest) =
      .ok (c, rest) := by
  have hhigh := hexValue?_hexDigit (n := c.toNat / 16) (by omega)
  have hlow := hexValue?_hexDigit (n := c.toNat % 16) (by omega)
  have hzero : hexValue? '0' = some 0 := rfl
  have hvalue : ((0 * 16 + 0) * 16 + c.toNat / 16) * 16 + c.toNat % 16 = c.toNat := by omega
  have hplain : isLowSurrogate c.toNat = false ∧ isHighSurrogate c.toNat = false := by
    constructor <;> simp [isLowSurrogate, isHighSurrogate] <;> omega
  simp only [readUnicodeEscape, readHex4, hhigh, hlow, hzero, hvalue, bind, Except.bind, hplain.1,
    hplain.2, Bool.false_eq_true, if_false, Char.ofNat_toNat]

/-- A character is read as itself, however it is written. -/
theorem readStringTail_escapeChar (done : List Char) (c : Char) (rest : List Char) :
    readStringTail done (escapeChar c ++ rest) = readStringTail (c :: done) rest := by
  unfold escapeChar
  split
  · simp [readStringTail, simpleEscape?]
  · simp [readStringTail, simpleEscape?]
  · simp [readStringTail, simpleEscape?]
  · simp [readStringTail, simpleEscape?]
  · simp [readStringTail, simpleEscape?]
  · rename_i hquote hbackslash _ _ _
    split
    next hcode =>
      obtain rfl : c = Char.ofNat 8 := by rw [← hcode, Char.ofNat_toNat]
      simp [readStringTail, simpleEscape?]
    next =>
      split
      next hcode =>
        obtain rfl : c = Char.ofNat 12 := by rw [← hcode, Char.ofNat_toNat]
        simp [readStringTail, simpleEscape?]
      next =>
        split
        next hcontrol =>
          simp only [List.cons_append, List.nil_append]
          have hshorter : rest.length <
              ('0' :: '0' :: hexDigit (c.toNat / 16) :: hexDigit (c.toNat % 16) ::
                rest).length := by
            simp only [List.length_cons]
            omega
          rw [readStringTail, readUnicodeEscape_control hcontrol]
          exact if_pos hshorter
        next hcontrol =>
          simp only [List.cons_append, List.nil_append]
          rw [readStringTail]
          · rw [if_neg hcontrol]
          · exact hquote
          · exact fun _ heq _ => hbackslash heq
          · exact fun _ _ heq _ => hbackslash heq

theorem readStringTail_quoted (done cs rest : List Char) :
    readStringTail done (cs.flatMap escapeChar ++ '"' :: rest) =
      .ok (String.ofList (done.reverse ++ cs), rest) := by
  induction cs generalizing done with
  | nil => simp [readStringTail]
  | cons c cs ih =>
      rw [List.flatMap_cons, List.append_assoc, readStringTail_escapeChar, ih]
      simp

/-! ### Blanks -/

def Blanks (cs : List Char) : Prop := ∀ c ∈ cs, isSpace c = true

theorem skipSpace_append {blanks : List Char} (hblanks : Blanks blanks) (cs : List Char) :
    skipSpace (blanks ++ cs) = skipSpace cs := List.dropWhile_append_of_pos hblanks

theorem skipSpace_cons {c : Char} (hc : isSpace c = false) (rest : List Char) :
    skipSpace (c :: rest) = c :: rest := by simp [skipSpace, hc]

theorem blanks_nil : Blanks [] := by
  rintro c ⟨⟩

theorem blanks_lineBreak (depth : Nat) : Blanks (lineBreak depth) := by
  intro c hc
  rcases List.mem_cons.mp hc with rfl | hspace
  · rfl
  · rw [List.eq_of_mem_replicate hspace]
    rfl

theorem blanks_space : Blanks [' '] := by
  intro c hc
  rw [List.mem_singleton.mp hc]
  rfl

theorem stops_lineBreak (depth : Nat) (rest : List Char) : Stops (lineBreak depth ++ rest) := by
  rintro c ⟨⟩
  decide

theorem stops_comma (rest : List Char) : Stops (',' :: rest) := by
  rintro c ⟨⟩
  decide

/-! ### Values -/

/-- What holds of a value and of all values in it. -/
inductive Everywhere (P : Json → Prop) : Json → Prop where
  | null (hv : P .null) : Everywhere P .null
  | bool {b : Bool} (hv : P (.bool b)) : Everywhere P (.bool b)
  | number {n : Numeral} (hv : P (.number n)) : Everywhere P (.number n)
  | string {s : String} (hv : P (.string s)) : Everywhere P (.string s)
  | array {items : List Json} (hv : P (.array items))
      (hitems : ∀ v ∈ items, Everywhere P v) : Everywhere P (.array items)
  | object {fields : Fields} (hv : P (.object fields))
      (hfields : ∀ field ∈ fields, Everywhere P field.2) : Everywhere P (.object fields)

/-- What every JSON text is read as: no key comes twice and whole numbers fit. -/
def Tidy : Json → Prop
  | .object fields => (fields.map Prod.fst).Nodup
  | .number (.whole n) => FitsWord n
  | _ => True

/-- A real number is what the decimal it is written as is read as. -/
def ReadsBack : Json → Prop
  | .number (.real x) => readNumeral (numeralText (.real x)).toList = .ok (.real x, [])
  | _ => True

/-- Containers stand in one another at most so many levels deep. -/
def Nests : Nat → Json → Prop
  | 0, .array _ => False
  | 0, .object _ => False
  | n + 1, .array items => ∀ v ∈ items, Nests n v
  | n + 1, .object fields => ∀ field ∈ fields, Nests n field.2
  | _, _ => True

/-- What a value is read as, once it has been written, with so many levels of containers. -/
def Reloads : Nat → Json → Json → Prop
  | 0, .array _, _ => False
  | 0, .object _, _ => False
  | n + 1, .array items, w => ∃ others, w = .array others ∧ List.Forall₂ (Reloads n) items others
  | n + 1, .object fields, w => ∃ others, w = .object others ∧
      List.Forall₂ (fun field other => other.1 = field.1 ∧ Reloads n field.2 other.2) fields others
  | _, .number m, w => ∃ k, readNumeral (numeralText m).toList = .ok (k, []) ∧ w = .number k
  | _, v, w => w = v

variable {n : Nat} {v w : Json} {cs rest unread blanks : List Char}

/-! ### Scalars -/

theorem exists_head_numeralText (m : Numeral) :
    ∃ c others, (numeralText m).toList = c :: others ∧ (c = '-' ∨ isDigit c = true) := by
  obtain ⟨⟨negative, whole, fraction, exponent⟩, hwell, htext⟩ := exists_parts_numeralText m
  rw [htext]
  cases negative with
  | true => exact ⟨'-', _, rfl, Or.inl rfl⟩
  | false =>
      have hnumber : IsNumber whole := hwell.whole
      obtain ⟨first, others, rfl⟩ := List.exists_cons_of_ne_nil hnumber.ne_nil
      exact ⟨first, others ++ (fractionChars fraction ++ exponentChars exponent), rfl,
        Or.inr (hnumber.all first (by simp))⟩

theorem readScalar_numeralText (m : Numeral) (hstops : Stops rest) :
    readScalar ((numeralText m).toList ++ rest) = .ok (w, unread) ↔
      (∃ k, readNumeral (numeralText m).toList = .ok (k, []) ∧ w = .number k) ∧
        unread = rest := by
  obtain ⟨t, hwell, htext⟩ := exists_parts_numeralText m
  obtain ⟨c, others, hhead, hc⟩ := exists_head_numeralText m
  have hscalar : readScalar ((numeralText m).toList ++ rest) =
      (readNumeral ((numeralText m).toList ++ rest)).map
        fun read => (.number read.1, read.2) := by
    rw [hhead, List.cons_append, readScalar, if_pos hc]
    all_goals
      rintro rfl
      rcases hc with hc | hc <;> revert hc <;> decide
  rw [hscalar, htext]
  constructor
  · intro hread
    rcases hnumeral : readNumeral (t.chars ++ rest) with e | ⟨k, left⟩
    · rw [hnumeral] at hread
      cases hread
    · rw [hnumeral] at hread
      obtain ⟨rfl, rfl⟩ := Prod.mk.inj (Except.ok.inj hread)
      obtain ⟨halone, rfl⟩ := (readNumeral_append_eq_ok_iff hwell hstops).mp hnumeral
      exact ⟨⟨k, halone, rfl⟩, rfl⟩
  · rintro ⟨⟨k, halone, rfl⟩, rfl⟩
    rw [(readNumeral_append_eq_ok_iff hwell hstops).mpr ⟨halone, rfl⟩]
    rfl

def isContainer : Json → Bool
  | .array _ => true
  | .object _ => true
  | _ => false

/-- No container and no end of one starts with the first character of a scalar. -/
theorem exists_head_scalarText (hscalar : v.isContainer = false) :
    ∃ c others, (scalarText v).toList = c :: others ∧ isSpace c = false ∧
      c ≠ '[' ∧ c ≠ '\x7b' ∧ c ≠ ']' := by
  cases v with
  | null => exact ⟨'n', _, rfl, by decide⟩
  | bool b => cases b <;> exact ⟨_, _, rfl, by decide⟩
  | string s =>
      exact ⟨'"', s.toList.flatMap escapeChar ++ ['"'], by simp [scalarText, quoted, quotedChars],
        by decide⟩
  | number m =>
      obtain ⟨c, others, hhead, hc⟩ := exists_head_numeralText m
      have hother : ∀ other, isDigit other = false → other ≠ '-' → c ≠ other := by
        rintro other hdigit hminus rfl
        rcases hc with hc | hc
        · exact hminus hc
        · rw [hdigit] at hc
          cases hc
      refine ⟨c, others, hhead, ?_, hother _ (by decide) (by decide),
        hother _ (by decide) (by decide), hother _ (by decide) (by decide)⟩
      simp only [isSpace, Bool.or_eq_false_iff, beq_eq_false_iff_ne]
      refine ⟨⟨⟨?_, ?_⟩, ?_⟩, ?_⟩ <;> exact hother _ (by decide) (by decide)
  | array items => cases hscalar
  | object fields => cases hscalar

theorem readLiteral_append (literal : String) (value : Json) (rest : List Char) :
    readLiteral literal value (literal.toList ++ rest) = .ok (value, rest) := by
  have hfront : literal.toList.isPrefixOf (literal.toList ++ rest) = true :=
    List.isPrefixOf_iff_prefix.mpr (List.prefix_append _ _)
  rw [readLiteral, if_pos hfront, ← String.length_toList, List.drop_left]

theorem readScalar_scalarText (hscalar : v.isContainer = false) (hstops : Stops rest) :
    readScalar ((scalarText v).toList ++ rest) = .ok (w, unread) ↔
      Reloads n v w ∧ unread = rest := by
  cases v with
  | null =>
      have hliteral : readScalar ("null".toList ++ rest) = .ok (.null, rest) :=
        readLiteral_append "null" .null rest
      simp only [scalarText, hliteral, Reloads]
      simp [eq_comm]
  | bool b =>
      have hliteral : readScalar ((if b then "true" else "false").toList ++ rest) =
          .ok (.bool b, rest) := by
        cases b with
        | true => exact readLiteral_append "true" (.bool true) rest
        | false => exact readLiteral_append "false" (.bool false) rest
      simp only [scalarText, hliteral, Reloads]
      simp [eq_comm]
  | string s =>
      have htail := readStringTail_quoted [] s.toList rest
      simp [scalarText, quoted, quotedChars, readScalar, Reloads, htail, Except.map, eq_comm]
  | number m => simpa [scalarText, Reloads] using readScalar_numeralText m hstops
  | array items => cases hscalar
  | object fields => cases hscalar

theorem readValue_of_head {c : Char} {others : List Char} (hspace : isSpace c = false)
    (harray : c ≠ '[') (hobject : c ≠ '\x7b') :
    readValue n (c :: others) = readScalar (c :: others) := by
  cases n with
  | zero => rw [readValue, skipSpace_cons hspace]
  | succ n =>
      rw [readValue, skipSpace_cons hspace]
      split
      next heq => exact absurd (List.cons.inj heq).1 harray
      next heq => exact absurd (List.cons.inj heq).1 hobject
      next => rfl

theorem readValue_blanks (hblanks : Blanks blanks) (n : Nat) (cs : List Char) :
    readValue n (blanks ++ cs) = readValue n cs := by
  cases n <;> simp only [readValue, skipSpace_append hblanks]

/-! ### Containers -/

/-- Behind any blanks the reader takes the text, and no more, for those values. -/
def Reads {α : Type} (item : List Char → Step α) (text : List Char) (R : α → Prop) : Prop :=
  ∀ blanks rest a unread, Blanks blanks → Stops rest →
    (item (blanks ++ (text ++ rest)) = .ok (a, unread) ↔ R a ∧ unread = rest)

/-- Items are read by reading one, and then the others or the end. -/
theorem readItems_eq_ok_iff {item : List Char → Step Json} {done others : List Json} :
    readItems item done cs = .ok (others, unread) ↔
      ∃ w after, item cs = .ok (w, after) ∧
        ((∃ rest, skipSpace after = ',' :: rest ∧ rest.length < cs.length ∧
            readItems item (w :: done) rest = .ok (others, unread)) ∨
          skipSpace after = ']' :: unread ∧ others = (w :: done).reverse) := by
  rw [readItems]
  rcases item cs with left | ⟨w, after⟩
  · simp
  · simp only [Except.ok.injEq, Prod.mk.injEq]
    constructor
    · intro hread
      refine ⟨w, after, ⟨rfl, rfl⟩, ?_⟩
      split at hread
      next rest hcomma =>
        split at hread
        next hshorter => exact Or.inl ⟨rest, hcomma, hshorter, hread⟩
        next => cases hread
      next rest hclose =>
        obtain ⟨rfl, rfl⟩ := Prod.mk.inj (Except.ok.inj hread)
        exact Or.inr ⟨hclose, rfl⟩
      next => cases hread
    · rintro ⟨_, _, ⟨rfl, rfl⟩, ⟨rest, hcomma, hshorter, hread⟩ | ⟨hclose, rfl⟩⟩
      · rw [hcomma]
        simpa [hshorter] using hread
      · rw [hclose]
        rfl

/-- Fields are read by reading one, and then the others or the end. -/
theorem readFields_eq_ok_iff {item : List Char → Step Json} {done others : Fields} :
    readFields item done cs = .ok (others, unread) ↔
      ∃ key w after, readField item cs = .ok ((key, w), after) ∧
        ((∃ rest, skipSpace after = ',' :: rest ∧ rest.length < cs.length ∧
            readFields item (Fields.insert key w done) rest = .ok (others, unread)) ∨
          skipSpace after = '\x7d' :: unread ∧ others = Fields.insert key w done) := by
  rw [readFields]
  rcases readField item cs with left | ⟨⟨key, w⟩, after⟩
  · simp
  · simp only [Except.ok.injEq, Prod.mk.injEq]
    constructor
    · intro hread
      refine ⟨key, w, after, ⟨⟨rfl, rfl⟩, rfl⟩, ?_⟩
      split at hread
      next rest hcomma =>
        split at hread
        next hshorter => exact Or.inl ⟨rest, hcomma, hshorter, hread⟩
        next => cases hread
      next rest hclose =>
        obtain ⟨rfl, rfl⟩ := Prod.mk.inj (Except.ok.inj hread)
        exact Or.inr ⟨hclose, rfl⟩
      next => cases hread
    · rintro ⟨_, _, _, ⟨⟨rfl, rfl⟩, rfl⟩, ⟨rest, hcomma, hshorter, hread⟩ | ⟨hclose, rfl⟩⟩
      · rw [hcomma]
        simpa [hshorter] using hread
      · rw [hclose]
        rfl

/-- A field is a key in quotes, a colon and a value. -/
theorem readField_eq_ok_iff {item : List Char → Step Json} {field : String × Json} :
    readField item cs = .ok (field, unread) ↔
      ∃ rest after more, skipSpace cs = '"' :: rest ∧
        readStringTail [] rest = .ok (field.1, after) ∧ skipSpace after = ':' :: more ∧
        item more = .ok (field.2, unread) := by
  obtain ⟨key, w⟩ := field
  rw [readField]
  constructor
  · intro hread
    split at hread
    next rest hquote =>
      split at hread
      next => cases hread
      next name after hkey =>
        split at hread
        next more hcolon =>
          split at hread
          next => cases hread
          next x left hitem =>
            obtain ⟨⟨rfl, rfl⟩, rfl⟩ := by simpa using hread
            exact ⟨rest, after, more, hquote, hkey, hcolon, hitem⟩
        next => cases hread
    next => cases hread
  · rintro ⟨rest, after, more, hquote, hkey, hcolon, hitem⟩
    simp [hquote, hkey, hcolon, hitem]

/-- What follows the first of several items, or of several fields. -/
def behind (depth : Nat) (more : List Char) : List Char := ',' :: (lineBreak depth ++ more)

theorem prettyItems_cons_append (depth : Nat) (v next : Json) (more : List Json)
    (tail : List Char) :
    prettyItems depth (v :: next :: more) ++ tail =
      prettyChars depth v ++ behind depth (prettyItems depth (next :: more) ++ tail) := by
  rw [prettyItems]
  · simp [behind]
  · simp

/-- One field with its key. -/
def fieldChars (depth : Nat) (field : String × Json) : List Char :=
  quotedChars field.1 ++ ':' :: ' ' :: prettyChars depth field.2

theorem prettyFields_cons_append (depth : Nat) (field next : String × Json) (more : Fields)
    (tail : List Char) :
    prettyFields depth (field :: next :: more) ++ tail =
      fieldChars depth field ++ behind depth (prettyFields depth (next :: more) ++ tail) := by
  rw [prettyFields]
  · simp [behind, fieldChars]
  · simp

theorem skipSpace_behind (depth : Nat) (more : List Char) :
    skipSpace (behind depth more) = ',' :: (lineBreak depth ++ more) := skipSpace_cons rfl _

theorem skipSpace_closing {c : Char} (hc : isSpace c = false) (depth : Nat) (rest : List Char) :
    skipSpace (lineBreak depth ++ c :: rest) = c :: rest := by
  rw [skipSpace_append (blanks_lineBreak depth), skipSpace_cons hc]

theorem stops_behind (depth : Nat) (more : List Char) : Stops (behind depth more) := stops_comma _

theorem length_lt_behind (blanks text : List Char) (depth : Nat) (more : List Char) :
    (lineBreak depth ++ more).length < (blanks ++ (text ++ behind depth more)).length := by
  simp only [behind, List.length_append, List.length_cons]
  omega

/-- An item with others behind it is read, and then the others. -/
theorem readItems_behind_iff {item : List Char → Step Json} {text tail : List Char}
    {R : Json → Prop} {depth : Nat} {done others : List Json} (hitem : Reads item text R)
    (hblanks : Blanks blanks) :
    readItems item done (blanks ++ (text ++ behind depth tail)) = .ok (others, unread) ↔
      ∃ w, R w ∧ readItems item (w :: done) (lineBreak depth ++ tail) = .ok (others, unread) := by
  have hhead (w after) := hitem blanks (behind depth tail) w after hblanks (stops_behind _ _)
  rw [readItems_eq_ok_iff]
  constructor
  · rintro ⟨w, after, hout, hthen⟩
    obtain ⟨hw, rfl⟩ := (hhead w after).mp hout
    rw [skipSpace_behind] at hthen
    rcases hthen with ⟨left, hcomma, -, hread⟩ | ⟨hend, -⟩
    · cases hcomma
      exact ⟨w, hw, hread⟩
    · cases hend
  · rintro ⟨w, hw, hread⟩
    exact ⟨w, _, (hhead w _).mpr ⟨hw, rfl⟩,
      Or.inl ⟨_, skipSpace_behind _ _, length_lt_behind _ _ _ _, hread⟩⟩

/-- Behind the last item stands the bracket. -/
theorem readItems_last_iff {item : List Char → Step Json} {text : List Char} {R : Json → Prop}
    {outer : Nat} {done others : List Json} (hitem : Reads item text R)
    (hblanks : Blanks blanks) :
    readItems item done (blanks ++ (text ++ (lineBreak outer ++ ']' :: rest))) =
        .ok (others, unread) ↔
      ∃ w, R w ∧ others = (w :: done).reverse ∧ unread = rest := by
  have hhead (w after) := hitem blanks (lineBreak outer ++ ']' :: rest) w after hblanks
    (stops_lineBreak _ _)
  have hclose := skipSpace_closing (c := ']') rfl outer rest
  rw [readItems_eq_ok_iff]
  constructor
  · rintro ⟨w, after, hout, hthen⟩
    obtain ⟨hw, rfl⟩ := (hhead w after).mp hout
    rw [hclose] at hthen
    rcases hthen with ⟨left, hcomma, -⟩ | ⟨hend, rfl⟩
    · cases hcomma
    · cases hend
      exact ⟨w, hw, rfl, rfl⟩
  · rintro ⟨w, hw, rfl, rfl⟩
    exact ⟨w, _, (hhead w _).mpr ⟨hw, rfl⟩, Or.inr ⟨hclose, rfl⟩⟩

/-- The items of an array are read one after the other. -/
theorem readItems_iff {item : List Char → Step Json} {R : Json → Json → Prop} {depth outer : Nat}
    {v : Json} {more : List Json}
    (hitems : ∀ x ∈ v :: more, Reads item (prettyChars depth x) (R x)) (hblanks : Blanks blanks)
    (done : List Json) {others : List Json} :
    readItems item done
        (blanks ++ (prettyItems depth (v :: more) ++ (lineBreak outer ++ ']' :: rest))) =
        .ok (others, unread) ↔
      (∃ fresh, List.Forall₂ R (v :: more) fresh ∧ others = done.reverse ++ fresh) ∧
        unread = rest := by
  induction more generalizing v done blanks with
  | nil =>
      rw [prettyItems, readItems_last_iff (hitems v (by simp)) hblanks]
      constructor
      · rintro ⟨w, hw, rfl, rfl⟩
        exact ⟨⟨[w], .cons hw .nil, by simp⟩, rfl⟩
      · rintro ⟨⟨fresh, _ | ⟨hw, ⟨⟩⟩, rfl⟩, rfl⟩
        exact ⟨_, hw, by simp, rfl⟩
  | cons next more ih =>
      have hrest (w : Json) := ih
        (fun x (hx : x ∈ next :: more) => hitems x (List.mem_cons_of_mem _ hx))
        (blanks_lineBreak depth) (w :: done)
      rw [prettyItems_cons_append, readItems_behind_iff (hitems v (by simp)) hblanks]
      constructor
      · rintro ⟨w, hw, hread⟩
        obtain ⟨⟨fresh, hfresh, rfl⟩, rfl⟩ := (hrest w).mp hread
        exact ⟨⟨w :: fresh, .cons hw hfresh, by simp⟩, rfl⟩
      · rintro ⟨⟨fresh, _ | ⟨hw, hfresh⟩, rfl⟩, rfl⟩
        exact ⟨_, hw, (hrest _).mpr ⟨⟨_, hfresh, by simp⟩, rfl⟩⟩

/-- A field is read with its key. -/
theorem reads_field {item : List Char → Step Json} {R : Json → Prop} {depth : Nat}
    (key : String) {v : Json} (hitem : Reads item (prettyChars depth v) R) :
    Reads (readField item) (fieldChars depth (key, v)) fun field =>
      field.1 = key ∧ R field.2 := by
  rintro blanks rest ⟨name, w⟩ unread hblanks hstops
  let behindKey := ':' :: ([' '] ++ (prettyChars depth v ++ rest))
  have hlayout : fieldChars depth (key, v) ++ rest =
      '"' :: (key.toList.flatMap escapeChar ++ '"' :: behindKey) := by
    simp [fieldChars, quotedChars, behindKey]
  have hquote : skipSpace (blanks ++ (fieldChars depth (key, v) ++ rest)) =
      '"' :: (key.toList.flatMap escapeChar ++ '"' :: behindKey) := by
    rw [hlayout, skipSpace_append hblanks, skipSpace_cons rfl]
  have hkey : readStringTail [] (key.toList.flatMap escapeChar ++ '"' :: behindKey) =
      .ok (key, behindKey) := by
    simpa using readStringTail_quoted [] key.toList behindKey
  have hcolon : skipSpace behindKey = behindKey := skipSpace_cons rfl _
  rw [readField_eq_ok_iff]
  constructor
  · rintro ⟨left, after, more, hfirst, hname, hthen, hout⟩
    obtain rfl := (List.cons.inj (hquote.symm.trans hfirst)).2
    obtain ⟨rfl, rfl⟩ := Prod.mk.inj (Except.ok.inj (hkey.symm.trans hname))
    obtain rfl := (List.cons.inj (hcolon.symm.trans hthen)).2
    obtain ⟨hw, rfl⟩ := (hitem [' '] rest w unread blanks_space hstops).mp hout
    exact ⟨⟨rfl, hw⟩, rfl⟩
  · rintro ⟨⟨rfl, hw⟩, rfl⟩
    exact ⟨_, _, _, hquote, hkey, hcolon, (hitem [' '] unread w unread blanks_space hstops).mpr
      ⟨hw, rfl⟩⟩

/-- A field with others behind it is read, and then the others. -/
theorem readFields_behind_iff {item : List Char → Step Json} {text tail : List Char}
    {R : String × Json → Prop} {depth : Nat} {done others : Fields}
    (hfield : Reads (readField item) text R) (hblanks : Blanks blanks) :
    readFields item done (blanks ++ (text ++ behind depth tail)) = .ok (others, unread) ↔
      ∃ field : String × Json, R field ∧
        readFields item (Fields.insert field.1 field.2 done) (lineBreak depth ++ tail) =
          .ok (others, unread) := by
  have hhead (field after) := hfield blanks (behind depth tail) field after hblanks
    (stops_behind _ _)
  rw [readFields_eq_ok_iff]
  constructor
  · rintro ⟨key, w, after, hout, hthen⟩
    obtain ⟨hw, rfl⟩ := (hhead (key, w) after).mp hout
    rw [skipSpace_behind] at hthen
    rcases hthen with ⟨left, hcomma, -, hread⟩ | ⟨hend, -⟩
    · cases hcomma
      exact ⟨(key, w), hw, hread⟩
    · cases hend
  · rintro ⟨⟨key, w⟩, hw, hread⟩
    exact ⟨key, w, _, (hhead (key, w) _).mpr ⟨hw, rfl⟩,
      Or.inl ⟨_, skipSpace_behind _ _, length_lt_behind _ _ _ _, hread⟩⟩

/-- Behind the last field stands the brace. -/
theorem readFields_last_iff {item : List Char → Step Json} {text : List Char}
    {R : String × Json → Prop} {outer : Nat} {done others : Fields}
    (hfield : Reads (readField item) text R) (hblanks : Blanks blanks) :
    readFields item done (blanks ++ (text ++ (lineBreak outer ++ '\x7d' :: rest))) =
        .ok (others, unread) ↔
      ∃ field : String × Json, R field ∧
        others = Fields.insert field.1 field.2 done ∧ unread = rest := by
  have hhead (field after) := hfield blanks (lineBreak outer ++ '\x7d' :: rest) field after
    hblanks (stops_lineBreak _ _)
  have hclose := skipSpace_closing (c := '\x7d') rfl outer rest
  rw [readFields_eq_ok_iff]
  constructor
  · rintro ⟨key, w, after, hout, hthen⟩
    obtain ⟨hw, rfl⟩ := (hhead (key, w) after).mp hout
    rw [hclose] at hthen
    rcases hthen with ⟨left, hcomma, -⟩ | ⟨hend, rfl⟩
    · cases hcomma
    · cases hend
      exact ⟨(key, w), hw, rfl, rfl⟩
  · rintro ⟨⟨key, w⟩, hw, rfl, rfl⟩
    exact ⟨key, w, _, (hhead (key, w) _).mpr ⟨hw, rfl⟩, Or.inr ⟨hclose, rfl⟩⟩

/-- The fields of an object are read one after the other; no key comes twice. -/
theorem readFields_iff {item : List Char → Step Json} {R : Json → Json → Prop} {depth outer : Nat}
    {field : String × Json} {more : Fields}
    (hfields : ∀ x ∈ field :: more, Reads item (prettyChars depth x.2) (R x.2))
    (hblanks : Blanks blanks) (done : Fields)
    (hkeys : (done.map Prod.fst ++ (field :: more).map Prod.fst).Nodup) {others : Fields} :
    readFields item done
        (blanks ++ (prettyFields depth (field :: more) ++ (lineBreak outer ++ '\x7d' :: rest))) =
        .ok (others, unread) ↔
      (∃ fresh, List.Forall₂ (fun x other => other.1 = x.1 ∧ R x.2 other.2) (field :: more) fresh ∧
        others = done ++ fresh) ∧ unread = rest := by
  induction more generalizing field done blanks with
  | nil =>
      obtain ⟨key, v⟩ := field
      have hread := reads_field key (hfields (key, v) (by simp))
      have hnew : key ∉ done.map Prod.fst := fun hmem =>
        (List.nodup_append.mp hkeys).2.2 key hmem key (by simp) rfl
      have hlast : prettyFields depth [(key, v)] = fieldChars depth (key, v) := by
        rw [prettyFields, fieldChars]
      rw [hlast, readFields_last_iff hread hblanks]
      constructor
      · rintro ⟨⟨name, w⟩, ⟨rfl, hw⟩, rfl, rfl⟩
        exact ⟨⟨[(name, w)], .cons ⟨rfl, hw⟩ .nil, Fields.insert_of_notMem hnew w⟩, rfl⟩
      · rintro ⟨⟨fresh, _ | ⟨hw, ⟨⟩⟩, rfl⟩, rfl⟩
        exact ⟨_, hw, (Fields.insert_of_notMem (by rwa [hw.1]) _).symm, rfl⟩
  | cons next more ih =>
      obtain ⟨key, v⟩ := field
      have hread := reads_field key (hfields (key, v) (by simp))
      have hnew : key ∉ done.map Prod.fst := fun hmem =>
        (List.nodup_append.mp hkeys).2.2 key hmem key (by simp) rfl
      have hrest (w : Json) := ih
        (fun x (hx : x ∈ next :: more) => hfields x (List.mem_cons_of_mem _ hx))
        (blanks_lineBreak depth) (done ++ [(key, w)]) (by simpa using hkeys)
      rw [prettyFields_cons_append, readFields_behind_iff hread hblanks]
      constructor
      · rintro ⟨⟨name, w⟩, ⟨rfl, hw⟩, hout⟩
        rw [Fields.insert_of_notMem hnew] at hout
        obtain ⟨⟨fresh, hfresh, rfl⟩, rfl⟩ := (hrest w).mp hout
        exact ⟨⟨(name, w) :: fresh, .cons ⟨rfl, hw⟩ hfresh, by simp⟩, rfl⟩
      · rintro ⟨⟨fresh, _ | @⟨_, ⟨name, w⟩, _, _, ⟨rfl, hw⟩, hfresh⟩, rfl⟩, rfl⟩
        refine ⟨(name, w), ⟨rfl, hw⟩, ?_⟩
        rw [Fields.insert_of_notMem hnew]
        exact (hrest w).mpr ⟨⟨_, hfresh, by simp⟩, rfl⟩

/-! ### All values -/

theorem prettyChars_scalar (hscalar : v.isContainer = false) (depth : Nat) :
    prettyChars depth v = (scalarText v).toList := by
  cases v with
  | array items => cases hscalar
  | object fields => cases hscalar
  | _ => rw [prettyChars] <;> simp

theorem exists_head_prettyChars (depth : Nat) (v : Json) :
    ∃ c others, prettyChars depth v = c :: others ∧ isSpace c = false ∧ c ≠ ']' := by
  by_cases hscalar : v.isContainer = false
  · obtain ⟨c, others, hhead, hspace, -, -, hclose⟩ := exists_head_scalarText hscalar
    exact ⟨c, others, (prettyChars_scalar hscalar depth).trans hhead, hspace, hclose⟩
  · cases v with
    | array items => cases items <;> exact ⟨'[', _, rfl, by decide⟩
    | object fields => cases fields <;> exact ⟨'\x7b', _, rfl, by decide⟩
    | _ => exact absurd rfl hscalar

/-- Behind the opening bracket comes the first item. -/
theorem exists_head_prettyItems (depth : Nat) (v : Json) (more : List Json) (tail : List Char) :
    ∃ c others, skipSpace (lineBreak depth ++ (prettyItems depth (v :: more) ++ tail)) =
      c :: others ∧ c ≠ ']' := by
  obtain ⟨c, others, hhead, hspace, hclose⟩ := exists_head_prettyChars depth v
  cases more with
  | nil =>
      refine ⟨c, others ++ tail, ?_, hclose⟩
      rw [skipSpace_append (blanks_lineBreak depth), prettyItems, hhead, List.cons_append,
        skipSpace_cons hspace]
  | cons next more =>
      refine ⟨c, others ++ behind depth (prettyItems depth (next :: more) ++ tail), ?_, hclose⟩
      rw [skipSpace_append (blanks_lineBreak depth), prettyItems_cons_append, hhead,
        List.cons_append, skipSpace_cons hspace]

/-- Behind the opening brace comes the first key. -/
theorem exists_head_prettyFields (depth : Nat) (field : String × Json) (more : Fields)
    (tail : List Char) :
    ∃ others, skipSpace (lineBreak depth ++ (prettyFields depth (field :: more) ++ tail)) =
      '"' :: others := by
  obtain ⟨key, v⟩ := field
  rw [skipSpace_append (blanks_lineBreak depth)]
  cases more with
  | nil =>
      rw [prettyFields, quotedChars]
      exact ⟨_, rfl⟩
  | cons next more =>
      rw [prettyFields_cons_append, fieldChars, quotedChars]
      exact ⟨_, rfl⟩

theorem readValue_scalar (hscalar : v.isContainer = false) (n depth : Nat) :
    Reads (readValue n) (prettyChars depth v) (Reloads n v) := by
  intro blanks rest w unread hblanks hstops
  obtain ⟨c, others, hhead, hspace, harray, hobject, -⟩ := exists_head_scalarText hscalar
  have hscalarRead : readScalar ((scalarText v).toList ++ rest) = .ok (w, unread) ↔
      Reloads n v w ∧ unread = rest := readScalar_scalarText hscalar hstops
  rw [prettyChars_scalar hscalar, readValue_blanks hblanks]
  rw [hhead, List.cons_append] at hscalarRead ⊢
  rw [readValue_of_head hspace harray hobject]
  exact hscalarRead

/-- No container is read when no level is left. -/
theorem readValue_zero_of_isContainer (hcontainer : v.isContainer = true) (depth : Nat) :
    Reads (readValue 0) (prettyChars depth v) (Reloads 0 v) := by
  intro blanks rest w unread hblanks _
  rw [readValue_blanks hblanks]
  cases v with
  | array items =>
      cases items <;> simp [prettyChars, scalarText, readValue, skipSpace, isSpace, readScalar,
        isDigit, Reloads]
  | object fields =>
      cases fields <;> simp [prettyChars, scalarText, readValue, skipSpace, isSpace, readScalar,
        isDigit, Reloads]
  | _ => cases hcontainer

theorem map_eq_ok_iff {α : Type} {r : Step α} {make : α → Json} :
    r.map (fun read => (make read.1, read.2)) = .ok (w, unread) ↔
      ∃ a, r = .ok (a, unread) ∧ w = make a := by
  rcases r with left | ⟨a, after⟩
  · simp [Except.map]
  · simp only [Except.map, Except.ok.injEq, Prod.mk.injEq]
    constructor
    · rintro ⟨rfl, rfl⟩
      exact ⟨a, ⟨rfl, rfl⟩, rfl⟩
    · rintro ⟨_, ⟨rfl, rfl⟩, rfl⟩
      exact ⟨rfl, rfl⟩

theorem readValue_array {inner : List Char} {c : Char} {others : List Char}
    (hinner : skipSpace inner = c :: others) (hc : c ≠ ']') :
    readValue (n + 1) ('[' :: inner) = .ok (w, unread) ↔
      ∃ items, readItems (readValue n) [] inner = .ok (items, unread) ∧ w = .array items := by
  have hread : readValue (n + 1) ('[' :: inner) =
      (readItems (readValue n) [] inner).map fun read => (.array read.1, read.2) := by
    rw [readValue, skipSpace_cons rfl]
    simp only [hinner]
    split
    next heq => exact absurd (List.cons.inj heq).1 hc
    next => rfl
  rw [hread, map_eq_ok_iff]

theorem readValue_object {inner : List Char} {c : Char} {others : List Char}
    (hinner : skipSpace inner = c :: others) (hc : c ≠ '\x7d') :
    readValue (n + 1) ('\x7b' :: inner) = .ok (w, unread) ↔
      ∃ fields, readFields (readValue n) [] inner = .ok (fields, unread) ∧ w = .object fields := by
  have hread : readValue (n + 1) ('\x7b' :: inner) =
      (readFields (readValue n) [] inner).map fun read => (.object read.1, read.2) := by
    rw [readValue, skipSpace_cons rfl]
    simp only [hinner]
    split
    next heq => exact absurd (List.cons.inj heq).1 hc
    next => rfl
  rw [hread, map_eq_ok_iff]

theorem reads_array {depth : Nat} (items : List Json)
    (hitems : ∀ x ∈ items, Reads (readValue n) (prettyChars (depth + 1) x) (Reloads n x)) :
    Reads (readValue (n + 1)) (prettyChars depth (.array items))
      (Reloads (n + 1) (.array items)) := by
  intro blanks rest w unread hblanks _
  rw [readValue_blanks hblanks]
  cases items with
  | nil =>
      have hread : readValue (n + 1) (prettyChars depth (.array []) ++ rest) =
          .ok (.array [], rest) := rfl
      simp [hread, Reloads, eq_comm]
  | cons v more =>
      have hlayout : prettyChars depth (.array (v :: more)) ++ rest =
          '[' :: (lineBreak (depth + 1) ++
            (prettyItems (depth + 1) (v :: more) ++ (lineBreak depth ++ ']' :: rest))) := by
        simp [prettyChars]
      obtain ⟨c, others, hinner, hclose⟩ :=
        exists_head_prettyItems (depth + 1) v more (lineBreak depth ++ ']' :: rest)
      rw [hlayout, readValue_array hinner hclose]
      simp only [readItems_iff hitems (blanks_lineBreak _), Reloads, List.reverse_nil,
        List.nil_append]
      constructor
      · rintro ⟨items, ⟨⟨fresh, hfresh, rfl⟩, rfl⟩, rfl⟩
        exact ⟨⟨_, rfl, hfresh⟩, rfl⟩
      · rintro ⟨⟨fresh, rfl, hfresh⟩, rfl⟩
        exact ⟨fresh, ⟨⟨fresh, hfresh, rfl⟩, rfl⟩, rfl⟩

theorem reads_object {depth : Nat} (fields : Fields) (hkeys : (fields.map Prod.fst).Nodup)
    (hfields : ∀ x ∈ fields,
      Reads (readValue n) (prettyChars (depth + 1) x.2) (Reloads n x.2)) :
    Reads (readValue (n + 1)) (prettyChars depth (.object fields))
      (Reloads (n + 1) (.object fields)) := by
  intro blanks rest w unread hblanks _
  rw [readValue_blanks hblanks]
  cases fields with
  | nil =>
      have hread : readValue (n + 1) (prettyChars depth (.object []) ++ rest) =
          .ok (.object [], rest) := rfl
      simp [hread, Reloads, eq_comm]
  | cons field more =>
      have hlayout : prettyChars depth (.object (field :: more)) ++ rest =
          '\x7b' :: (lineBreak (depth + 1) ++
            (prettyFields (depth + 1) (field :: more) ++ (lineBreak depth ++ '\x7d' :: rest))) := by
        simp [prettyChars]
      obtain ⟨others, hinner⟩ :=
        exists_head_prettyFields (depth + 1) field more (lineBreak depth ++ '\x7d' :: rest)
      rw [hlayout, readValue_object hinner (by decide)]
      simp only [readFields_iff hfields (blanks_lineBreak _) [] (by simpa using hkeys), Reloads,
        List.nil_append]
      constructor
      · rintro ⟨fields, ⟨⟨fresh, hfresh, rfl⟩, rfl⟩, rfl⟩
        exact ⟨⟨_, rfl, hfresh⟩, rfl⟩
      · rintro ⟨⟨fresh, rfl, hfresh⟩, rfl⟩
        exact ⟨fresh, ⟨⟨fresh, hfresh, rfl⟩, rfl⟩, rfl⟩

/-- The pretty text of a value is read up to its end, as what the value reloads as. -/
theorem reads_value (n : Nat) (htidy : v.Everywhere Tidy) (depth : Nat) :
    Reads (readValue n) (prettyChars depth v) (Reloads n v) := by
  induction n generalizing v depth with
  | zero =>
      by_cases hscalar : v.isContainer = false
      · exact readValue_scalar hscalar 0 depth
      · exact readValue_zero_of_isContainer ((Bool.not_eq_false _).mp hscalar) depth
  | succ n ih =>
      cases htidy with
      | array _ hitems => exact reads_array _ fun x hx => ih (hitems x hx) (depth + 1)
      | object hkeys hfields =>
          exact reads_object _ hkeys fun x hx => ih (hfields x hx) (depth + 1)
      | null _ => exact readValue_scalar rfl _ depth
      | bool _ => exact readValue_scalar rfl _ depth
      | number _ => exact readValue_scalar rfl _ depth
      | string _ => exact readValue_scalar rfl _ depth

/-- What has been written is read as what it reloads as. -/
theorem parse_pretty_iff (htidy : v.Everywhere Tidy) :
    parse v.pretty = .ok w ↔ Reloads nestingLimit v w := by
  have hread (w unread) : readValue nestingLimit (prettyChars 0 v) = .ok (w, unread) ↔
      Reloads nestingLimit v w ∧ unread = [] := by
    simpa using reads_value nestingLimit htidy 0 [] [] w unread blanks_nil stops_nil
  rw [parse, parseWithin, pretty, String.toList_ofList]
  constructor
  · intro hparse
    rcases hout : readValue nestingLimit (prettyChars 0 v) with left | ⟨x, unread⟩
    · rw [hout] at hparse
      cases hparse
    · obtain ⟨hx, rfl⟩ := (hread x unread).mp hout
      rw [hout] at hparse
      obtain rfl : x = w := Except.ok.inj hparse
      exact hx
  · intro hw
    rw [(hread w []).mpr ⟨hw, rfl⟩]
    rfl

/-! ### What is read back -/

theorem everywhere_number {P : Json → Prop} {m : Numeral} :
    Everywhere P (.number m) ↔ P (.number m) :=
  ⟨fun h => by cases h; assumption, .number⟩

theorem reloads_number_self {m : Numeral} (htidy : Tidy (.number m)) :
    Reloads n (.number m) (.number m) ↔ ReadsBack (.number m) := by
  have hself : Reloads n (.number m) (.number m) ↔
      readNumeral (numeralText m).toList = .ok (m, []) := by
    simp [Reloads]
  rw [hself]
  cases m with
  | whole k => simpa [ReadsBack] using readNumeral_whole htidy
  | real x => rfl

theorem nests_of_not_isContainer (n : Nat) (hscalar : v.isContainer = false) : Nests n v := by
  cases v <;> simp_all [Nests, isContainer]

theorem reloads_scalar_self (n : Nat) (hscalar : v.isContainer = false)
    (htidy : v.Everywhere Tidy) : Reloads n v v ↔ Nests n v ∧ v.Everywhere ReadsBack := by
  have hnests := nests_of_not_isContainer n hscalar
  cases htidy with
  | null => exact ⟨fun _ => ⟨hnests, .null trivial⟩, fun _ => by simp [Reloads]⟩
  | bool => exact ⟨fun _ => ⟨hnests, .bool trivial⟩, fun _ => by simp [Reloads]⟩
  | string => exact ⟨fun _ => ⟨hnests, .string trivial⟩, fun _ => by simp [Reloads]⟩
  | number hnumber =>
      rw [reloads_number_self hnumber, everywhere_number]
      exact ⟨fun hback => ⟨hnests, hback⟩, And.right⟩
  | array => cases hscalar
  | object => cases hscalar

/-- A value is read as itself if it is not nested too deeply and its real numbers read back. -/
theorem reloads_self_iff (htidy : v.Everywhere Tidy) :
    Reloads n v v ↔ Nests n v ∧ v.Everywhere ReadsBack := by
  induction n generalizing v with
  | zero =>
      by_cases hscalar : v.isContainer = false
      · exact reloads_scalar_self 0 hscalar htidy
      · cases v <;> first | exact absurd rfl hscalar | simp [Reloads, Nests]
  | succ n ih =>
      cases htidy with
      | null hnull => exact reloads_scalar_self _ rfl (.null hnull)
      | bool hbool => exact reloads_scalar_self _ rfl (.bool hbool)
      | string hstring => exact reloads_scalar_self _ rfl (.string hstring)
      | number hnumber => exact reloads_scalar_self _ rfl (.number hnumber)
      | @array items _ hitems =>
          have hself : Reloads (n + 1) (.array items) (.array items) ↔
              ∀ x ∈ items, Reloads n x x := by
            simp [Reloads, List.forall₂_same]
          rw [hself]
          constructor
          · intro hall
            have hboth := fun x hx => (ih (hitems x hx)).mp (hall x hx)
            exact ⟨fun x hx => (hboth x hx).1, .array trivial fun x hx => (hboth x hx).2⟩
          · rintro ⟨hnests, _ | _ | _ | _ | ⟨-, hback⟩⟩ x hx
            exact (ih (hitems x hx)).mpr ⟨hnests x hx, hback x hx⟩
      | @object fields _ hfields =>
          have hself : Reloads (n + 1) (.object fields) (.object fields) ↔
              ∀ x ∈ fields, Reloads n x.2 x.2 := by
            simp [Reloads, List.forall₂_same]
          rw [hself]
          constructor
          · intro hall
            have hboth := fun x hx => (ih (hfields x hx)).mp (hall x hx)
            exact ⟨fun x hx => (hboth x hx).1, .object trivial fun x hx => (hboth x hx).2⟩
          · rintro ⟨hnests, _ | _ | _ | _ | _ | ⟨-, hback⟩⟩ x hx
            exact (ih (hfields x hx)).mpr ⟨hnests x hx, hback x hx⟩

/-- What is nested too deeply is not read back at all. -/
theorem nests_of_reloads (hreloads : Reloads n v w) : Nests n v := by
  induction n generalizing v w with
  | zero => cases v <;> simp [Nests] <;> exact hreloads
  | succ n ih =>
      cases v with
      | array items =>
          obtain ⟨others, -, hitems⟩ := hreloads
          exact ((List.forall₂_and_left _ _).mp (hitems.imp fun x y hxy => ⟨ih hxy, hxy⟩)).1
      | object fields =>
          obtain ⟨others, -, hfields⟩ := hreloads
          exact ((List.forall₂_and_left _ _).mp (hfields.imp fun x y hxy => ⟨ih hxy.2, hxy⟩)).1
      | _ => trivial

/-- What a reader gives for each item holds of all items of an array. -/
theorem readItems_all {P : Json → Prop} {item : List Char → Step Json}
    (hitem : ∀ cs w rest, item cs = .ok (w, rest) → P w) {done others : List Json}
    (hdone : ∀ x ∈ done, P x) (hread : readItems item done cs = .ok (others, unread)) :
    ∀ x ∈ others, P x := by
  induction hsize : cs.length using Nat.strongRecOn generalizing cs done with
  | ind size ih =>
      obtain ⟨w, after, hout, hthen⟩ := readItems_eq_ok_iff.mp hread
      have hmore : ∀ x ∈ w :: done, P x := by
        intro x hx
        rcases List.mem_cons.mp hx with rfl | hold
        · exact hitem _ _ _ hout
        · exact hdone x hold
      rcases hthen with ⟨rest, -, hshorter, hrest⟩ | ⟨-, rfl⟩
      · exact ih rest.length (hsize ▸ hshorter) hmore hrest rfl
      · exact fun x hx => hmore x (List.mem_reverse.mp hx)

/-- The same for the fields of an object, of which no two have the same key. -/
theorem readFields_all {P : Json → Prop} {item : List Char → Step Json}
    (hitem : ∀ cs w rest, item cs = .ok (w, rest) → P w) {done others : Fields}
    (hdone : ∀ x ∈ done, P x.2) (hkeys : (done.map Prod.fst).Nodup)
    (hread : readFields item done cs = .ok (others, unread)) :
    (∀ x ∈ others, P x.2) ∧ (others.map Prod.fst).Nodup := by
  induction hsize : cs.length using Nat.strongRecOn generalizing cs done with
  | ind size ih =>
      obtain ⟨key, w, after, hout, hthen⟩ := readFields_eq_ok_iff.mp hread
      obtain ⟨_, _, more, -, -, -, hvalue⟩ := readField_eq_ok_iff.mp hout
      have hmore : ∀ x ∈ Fields.insert key w done, P x.2 :=
        Fields.all_insert hdone (hitem _ _ _ hvalue)
      rcases hthen with ⟨rest, -, hshorter, hrest⟩ | ⟨-, rfl⟩
      · exact ih rest.length (hsize ▸ hshorter) hmore (Fields.nodup_keys_insert hkeys) hrest rfl
      · exact ⟨hmore, Fields.nodup_keys_insert hkeys⟩

theorem tidy_of_readScalar (hread : readScalar cs = .ok (w, unread)) :
    w.Everywhere Tidy ∧ w.isContainer = false := by
  unfold readScalar readLiteral at hread
  split at hread
  · split at hread
    · obtain ⟨rfl, -⟩ := Prod.mk.inj (Except.ok.inj hread)
      exact ⟨.null trivial, rfl⟩
    · cases hread
  · split at hread
    · obtain ⟨rfl, -⟩ := Prod.mk.inj (Except.ok.inj hread)
      exact ⟨.bool trivial, rfl⟩
    · cases hread
  · split at hread
    · obtain ⟨rfl, -⟩ := Prod.mk.inj (Except.ok.inj hread)
      exact ⟨.bool trivial, rfl⟩
    · cases hread
  · rename_i rest
    rcases hout : readStringTail [] rest with left | ⟨s, after⟩
    · rw [hout] at hread
      cases hread
    · rw [hout] at hread
      obtain ⟨rfl, -⟩ := Prod.mk.inj (Except.ok.inj hread)
      exact ⟨.string trivial, rfl⟩
  · split at hread
    · rename_i c rest _ _ _ _ _
      rcases hout : readNumeral (c :: rest) with left | ⟨m, after⟩
      · rw [hout] at hread
        cases hread
      · rw [hout] at hread
        obtain ⟨rfl, -⟩ := Prod.mk.inj (Except.ok.inj hread)
        cases m with
        | whole k => exact ⟨.number (fitsWord_of_readNumeral hout), rfl⟩
        | real x => exact ⟨.number trivial, rfl⟩
    · cases hread
  · cases hread

/-- Whatever is read is tidy and within the levels it is read with. -/
theorem tidy_of_readValue (hread : readValue n cs = .ok (w, unread)) :
    w.Everywhere Tidy ∧ Nests n w := by
  have hscalar {n : Nat} {cs : List Char} {w : Json} {unread : List Char}
      (h : readScalar cs = .ok (w, unread)) : w.Everywhere Tidy ∧ Nests n w :=
    ⟨(tidy_of_readScalar h).1, nests_of_not_isContainer n (tidy_of_readScalar h).2⟩
  induction n generalizing cs w unread with
  | zero => exact hscalar hread
  | succ n ih =>
      rw [readValue] at hread
      split at hread
      · rename_i rest _
        split at hread
        · obtain ⟨rfl, -⟩ := Prod.mk.inj (Except.ok.inj hread)
          exact ⟨.array trivial (by simp), by simp [Nests]⟩
        · rcases hout : readItems (readValue n) [] rest with left | ⟨items, after⟩
          · rw [hout] at hread
            cases hread
          · rw [hout] at hread
            obtain ⟨rfl, -⟩ := Prod.mk.inj (Except.ok.inj hread)
            have hitems := readItems_all (fun _ _ _ h => ih h) (by simp) hout
            exact ⟨.array trivial fun x hx => (hitems x hx).1, fun x hx => (hitems x hx).2⟩
      · rename_i rest _
        split at hread
        · obtain ⟨rfl, -⟩ := Prod.mk.inj (Except.ok.inj hread)
          exact ⟨.object (by simp [Tidy]) (by simp), by simp [Nests]⟩
        · rcases hout : readFields (readValue n) [] rest with left | ⟨fields, after⟩
          · rw [hout] at hread
            cases hread
          · rw [hout] at hread
            obtain ⟨rfl, -⟩ := Prod.mk.inj (Except.ok.inj hread)
            obtain ⟨hfields, hkeys⟩ :=
              readFields_all (fun _ _ _ h => ih h) (by simp) (by simp) hout
            exact ⟨.object hkeys fun x hx => (hfields x hx).1, fun x hx => (hfields x hx).2⟩
      · exact hscalar hread

theorem tidy_of_parse {text : String} (hparse : parse text = .ok w) :
    w.Everywhere Tidy ∧ Nests nestingLimit w := by
  rw [parse, parseWithin] at hparse
  rcases hout : readValue nestingLimit text.toList with left | ⟨x, rest⟩
  · rw [hout] at hparse
    cases hparse
  · rw [hout] at hparse
    dsimp only at hparse
    split at hparse
    · obtain rfl : x = w := Except.ok.inj hparse
      exact tidy_of_readValue hout
    · cases hparse

end Json
end Scaffold
