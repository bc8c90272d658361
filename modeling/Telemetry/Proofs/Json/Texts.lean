import Mathlib.Data.List.Forall2
import Mathlib.Tactic.SplitIfs
import Telemetry.Json.Typed
import Telemetry.Json.Writer
/-
Texts that are written in JSON and read again.

A quoted text is read as the text it was written for, whatever its characters and whatever follows it: each character is read
by itself, and what is read of a character does not depend on the rest. So an object whose members are all texts is read as
it was written.

- `exists_quotes_char`, `Quotes.append`: characters inside quotes, one by one;
- `exists_readPieces_quoted`: a whole quoted text;
- `exists_read_texts`, `exists_read_fields`: an object of texts, and its fields as a record.
-/
namespace Telemetry.Json

variable {c : Char} {rest written written' text text' : List Char} {pieces pieces' : List Piece}

/-! ## Inside quotes -/

/-- characters inside quotes are read as pieces that tell a text, whatever follows them -/
structure Quotes (written text : List Char) (pieces : List Piece) : Prop where
  read : ∀ rest, readPieces (written ++ rest) = (readPieces rest).map fun p => (pieces ++ p.1, p.2)
  tells : ∀ more, piecesText? (pieces ++ more) = (piecesText? more).map (text ++ ·)

theorem Quotes.nil : Quotes [] [] [] :=
  ⟨fun rest => by simp, fun more => by simp⟩

theorem Quotes.append (h : Quotes written text pieces) (h' : Quotes written' text' pieces') :
    Quotes (written ++ written') (text ++ text') (pieces ++ pieces') := by
  constructor
  · intro rest
    simp [List.append_assoc, h.read, h'.read, Function.comp_def]
  · intro more
    simp [List.append_assoc, h.tells, h'.tells, Function.comp_def]

/-- a character that stands for itself -/
theorem Quotes.plain (hquote : c ≠ '"') (hbackslash : c ≠ '\\') (hcontrol : 32 ≤ c.toNat) : Quotes [c] [c] [.char c] := by
  constructor
  · intro rest
    rw [List.singleton_append, readPieces]
    · rw [if_neg (by simp [hbackslash, hcontrol])]
      cases readPieces rest <;> rfl
    · exact hquote
    · exact fun _ _ _ _ _ h => absurd h hbackslash
    · exact fun _ _ h => absurd h hbackslash
  · intro more
    rfl

/-- a character with a short escape -/
theorem Quotes.escaped {e : Char} (h : escaped? e = some c) : Quotes ['\\', e] [c] [.char c] := by
  constructor
  · intro rest
    rw [List.cons_append, List.singleton_append, readPieces]
    · rw [h]
      cases readPieces rest <;> rfl
    · rintro - - - - - rfl
      cases h
  · intro more
    rfl

theorem hexNumber?_hex4 : ∀ n < 32, Text.hexNumber? (hex4 n) = some n := by decide +kernel

/-- a control character, written by its code -/
theorem Quotes.control (h : c.toNat < 32) : Quotes ('\\' :: 'u' :: hex4 c.toNat) [c] [.unit c.toNat] := by
  have hhigh : isHighSurrogate c.toNat = false := by simp [isHighSurrogate]; omega
  have hlow : isLowSurrogate c.toNat = false := by simp [isLowSurrogate]; omega
  constructor
  · intro rest
    have hcode := hexNumber?_hex4 c.toNat h
    simp only [hex4, List.cons_append, List.nil_append, readPieces] at hcode ⊢
    rw [hcode]
    cases readPieces rest <;> rfl
  · intro more
    -- a low surrogate may only stand behind a high one, so what follows does not matter
    rcases more with _ | ⟨next | code, more⟩
    · simp [piecesText?, hhigh, hlow, Char.ofNat_toNat]
    · have hread : piecesText? (.unit c.toNat :: .char next :: more) =
          if isHighSurrogate c.toNat || isLowSurrogate c.toNat then none
          else (piecesText? (.char next :: more)).map (Char.ofNat c.toNat :: ·) := rfl
      simp [hread, hhigh, hlow, Char.ofNat_toNat]
    · simp [piecesText?, hhigh, hlow, Char.ofNat_toNat]

/-- a character is read by itself -/
theorem exists_quotes_char (c : Char) : ∃ pieces, Quotes (escapeChar c) [c] pieces := by
  unfold escapeChar
  split_ifs with hquote hbackslash hline htab hreturn hback hfeed hcontrol
  · exact ⟨[.char c], .escaped (by simp [hquote, escaped?])⟩
  · exact ⟨[.char c], .escaped (by simp [hbackslash, escaped?])⟩
  · exact ⟨[.char c], .escaped (by simp [hline, escaped?])⟩
  · exact ⟨[.char c], .escaped (by simp [htab, escaped?])⟩
  · exact ⟨[.char c], .escaped (by simp [hreturn, escaped?])⟩
  · refine ⟨[.char c], .escaped ?_⟩
    rw [← Char.ofNat_toNat c, hback]
    rfl
  · refine ⟨[.char c], .escaped ?_⟩
    rw [← Char.ofNat_toNat c, hfeed]
    rfl
  · exact ⟨[.unit c.toNat], .control hcontrol⟩
  · exact ⟨[.char c], .plain hquote hbackslash (Nat.le_of_not_lt hcontrol)⟩

theorem exists_quotes (cs : List Char) : ∃ pieces, Quotes (cs.flatMap escapeChar) cs pieces := by
  induction cs with
  | nil => exact ⟨[], .nil⟩
  | cons c cs ih =>
    obtain ⟨first, hfirst⟩ := exists_quotes_char c
    obtain ⟨pieces, hpieces⟩ := ih
    exact ⟨first ++ pieces, hfirst.append hpieces⟩

/-! ## Quoted texts -/

/-- a JSON text stands for a text -/
def Tells (w : Written) (s : String) : Prop := ∃ pieces, w = .string pieces ∧ text? pieces = some s

/-- a quoted text is read as the text it was written for, whatever follows it -/
theorem exists_readPieces_quoted (s : String) : ∃ pieces, text? pieces = some s ∧
    ∀ rest, readPieces (s.toList.flatMap escapeChar ++ '"' :: rest) = some (pieces, rest) := by
  obtain ⟨pieces, hread, htells⟩ := exists_quotes s.toList
  refine ⟨pieces, ?_, fun rest => ?_⟩
  · have htext := htells []
    rw [List.append_nil] at htext
    simp [text?, htext, piecesText?]
  · rw [hread]
    simp [readPieces]

theorem exists_readValue_quoted (s : String) :
    ∃ w, Tells w s ∧ ∀ fuel rest, readValue (fuel + 1) (quoted s ++ rest) = some (w, rest) := by
  obtain ⟨pieces, htext, hread⟩ := exists_readPieces_quoted s
  refine ⟨.string pieces, ⟨pieces, rfl, htext⟩, fun fuel rest => ?_⟩
  simp [quoted, readValue, skipSpace, hread]

/-! ## Objects of texts -/

def textMember (m : String × String) : String × Value := (m.1, .string m.2)

/-- what is read tells the members -/
def TellsMembers (found : List (List Piece × Written)) (members : List (String × String)) : Prop :=
  List.Forall₂ (fun w m => text? w.1 = some m.1 ∧ Tells w.2 m.2) found members

/-- a member that is a text, at the end of an object or in front of another member -/
theorem exists_readMember (m : String × String) : ∃ key w, text? key = some m.1 ∧ Tells w m.2 ∧
    (∀ fuel rest, readMembers (fuel + 2) (quoted m.1 ++ ':' :: (quoted m.2 ++ '\x7d' :: rest)) = some ([(key, w)], rest)) ∧
    ∀ fuel rest, readMembers (fuel + 2) (quoted m.1 ++ ':' :: (quoted m.2 ++ ',' :: rest)) =
      (readMembers (fuel + 1) rest).map fun p => ((key, w) :: p.1, p.2) := by
  obtain ⟨key, hkey, hreadKey⟩ := exists_readPieces_quoted m.1
  obtain ⟨w, hw, hreadValue⟩ := exists_readValue_quoted m.2
  refine ⟨key, w, hkey, hw, fun fuel rest => ?_, fun fuel rest => ?_⟩
  · rw [show quoted m.1 = '"' :: m.1.toList.flatMap escapeChar ++ ['"'] from rfl]
    simp [readMembers, skipSpace, hreadKey, hreadValue]
  · rw [show quoted m.1 = '"' :: m.1.toList.flatMap escapeChar ++ ['"'] from rfl]
    simp [readMembers, skipSpace, hreadKey, hreadValue]

/-- the members of an object one after another, each as long as there is fuel for it -/
theorem exists_readMembers (m : String × String) (ms : List (String × String)) :
    ∃ found, TellsMembers found (m :: ms) ∧ ∀ fuel rest, ms.length ≤ fuel →
      readMembers (fuel + 2) (commaSeparated (memberTexts ((m :: ms).map textMember)) ++ '\x7d' :: rest) =
        some (found, rest) := by
  obtain ⟨key, w, hkey, hw, hlast, hcomma⟩ := exists_readMember m
  induction ms generalizing m key w with
  | nil =>
    refine ⟨[(key, w)], .cons ⟨hkey, hw⟩ .nil, fun fuel rest _ => ?_⟩
    simpa [textMember, memberTexts, commaSeparated, Value.chars] using hlast fuel rest
  | cons next ms ih =>
    obtain ⟨key', w', hkey', hw', hlast', hcomma'⟩ := exists_readMember next
    obtain ⟨found, hfound, hread⟩ := ih next key' w' hkey' hw' hlast' hcomma'
    refine ⟨(key, w) :: found, .cons ⟨hkey, hw⟩ hfound, fun fuel rest hfuel => ?_⟩
    obtain ⟨fuel, rfl⟩ := Nat.exists_eq_succ_of_ne_zero (Nat.ne_of_gt (Nat.lt_of_lt_of_le (Nat.succ_pos _) hfuel))
    have hstep := hcomma (fuel + 1) (commaSeparated (memberTexts ((next :: ms).map textMember)) ++ '\x7d' :: rest)
    rw [hread fuel rest (Nat.le_of_succ_le_succ hfuel)] at hstep
    simpa [textMember, memberTexts, commaSeparated, Value.chars] using hstep

/-- there is a comma between any two texts -/
theorem length_le_commaSeparated (ts : List (List Char)) : ts.length ≤ (commaSeparated ts).length + 1 := by
  induction ts with
  | nil => exact Nat.zero_le _
  | cons t ts ih =>
    cases ts with
    | nil => simp
    | cons next ts =>
      simp only [commaSeparated, List.length_append, List.length_cons] at ih ⊢
      omega

theorem length_memberTexts (members : List (String × Value)) : (memberTexts members).length = members.length := by
  induction members with
  | nil => rfl
  | cons m ms ih => simp [memberTexts, ih]

/-- the members of an object start with the quote of the first name -/
theorem exists_memberTexts_eq (m : String × String) (ms : List (String × String)) :
    ∃ rest, commaSeparated (memberTexts ((m :: ms).map textMember)) = '"' :: rest := by
  cases ms <;> exact ⟨_, rfl⟩

/-- an object of texts is read as an object that tells the same names and texts in the same order -/
theorem exists_read_texts (m : String × String) (ms : List (String × String)) :
    ∃ found, TellsMembers found (m :: ms) ∧ read (Value.object ((m :: ms).map textMember)).text = some (.object found) := by
  obtain ⟨found, hfound, hread⟩ := exists_readMembers m ms
  refine ⟨found, hfound, ?_⟩
  obtain ⟨chars, hchars⟩ := exists_memberTexts_eq m ms
  have hcommas := length_le_commaSeparated (memberTexts ((m :: ms).map textMember))
  rw [length_memberTexts, List.length_map, List.length_cons] at hcommas
  rw [hchars] at hread hcommas
  have hobject : readValue (2 * chars.length + 8) ('\x7b' :: '"' :: (chars ++ ['\x7d'])) = some (.object found, []) := by
    have hmembers := hread (2 * chars.length + 5) [] (by simp only [List.length_cons] at hcommas; omega)
    rw [List.cons_append] at hmembers
    simp [readValue, skipSpace, hmembers]
  have hchars' : (Value.object ((m :: ms).map textMember)).text.toList = '\x7b' :: '"' :: (chars ++ ['\x7d']) := by
    rw [Value.text, String.toList_ofList, Value.chars, hchars]
    rfl
  have hlength : 2 * ('\x7b' :: '"' :: (chars ++ ['\x7d'])).length + 2 = 2 * chars.length + 8 := by
    simp only [List.length_cons, List.length_append, List.length_nil]
    omega
  simp only [read, hchars', hlength, hobject]
  rfl

/-! ## Records of texts -/

/-- members whose names are known and not repeated are the fields of a record -/
theorem exists_knownMembers {found : List (List Piece × Written)} {members : List (String × String)} {names : List String}
    (h : TellsMembers found members) (hknown : ∀ m ∈ members, m.1 ∈ names) (hnodup : (members.map (·.1)).Nodup) :
    ∃ fields, knownMembers? names found = some fields ∧ fields.map (·.1) = members.map (·.1) ∧
      ∀ m ∈ members, ∃ w, fields.lookup m.1 = some w ∧ Tells w m.2 := by
  induction h with
  | nil => exact ⟨[], rfl, rfl, by simp⟩
  | @cons first m found members hfirst hrest ih =>
    obtain ⟨hname, htells⟩ := hfirst
    rw [List.map_cons, List.nodup_cons] at hnodup
    obtain ⟨fields, hfields, hkeys, hlookup⟩ := ih (fun m hm => hknown m (List.mem_cons_of_mem _ hm)) hnodup.2
    have hnew : fields.any (·.1 == m.1) = false := by
      rw [List.any_eq_false]
      intro field hfield heq
      refine hnodup.1 ?_
      rw [← hkeys, ← eq_of_beq heq]
      exact List.mem_map_of_mem hfield
    refine ⟨(m.1, first.2) :: fields, ?_, by simp [hkeys], fun m' hm' => ?_⟩
    · rw [knownMembers?, hname, hfields]
      simp [hknown m List.mem_cons_self, hnew]
    · rcases List.mem_cons.1 hm' with rfl | hm'
      · exact ⟨first.2, List.lookup_cons_self, htells⟩
      · have hne : m'.1 ≠ m.1 := by
          intro heq
          exact hnodup.1 (heq ▸ List.mem_map_of_mem hm')
        obtain ⟨w, hw, htells'⟩ := hlookup m' hm'
        exact ⟨w, by rw [List.lookup_cons, beq_false_of_ne hne]; exact hw, htells'⟩

/-- **A record of texts is read back.** Its text is JSON that has the record's fields, and each of them tells its text, for any
texts whatever. -/
theorem exists_read_fields (m : String × String) (ms : List (String × String)) (names : List String)
    (hknown : ∀ m' ∈ m :: ms, m'.1 ∈ names) (hnodup : ((m :: ms).map (·.1)).Nodup) :
    ∃ w fields, read (Value.object ((m :: ms).map textMember)).text = some w ∧ w.fields? names = some fields ∧
      ∀ m' ∈ m :: ms, ∃ w, fields.lookup m'.1 = some w ∧ Tells w m'.2 := by
  obtain ⟨found, hfound, hread⟩ := exists_read_texts m ms
  obtain ⟨fields, hfields, -, hlookup⟩ := exists_knownMembers hfound hknown hnodup
  exact ⟨.object found, fields, hread, hfields, hlookup⟩

end Telemetry.Json
