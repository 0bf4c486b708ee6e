import ClauseTx.Hex
import ClauseTx.Json.Record
import ClauseTx.Proofs.Text.Utf8

/-!
# Objects of texts

An object whose values are texts is read back from what `render` writes
(`texts?_render`), whatever characters the keys and the values have.

A quoted text ends at the first bare quote.  No character is written with
one: quotes are escaped, and the bytes of characters beyond ASCII are above
all ASCII characters.  So a text is read character by character
(`exists_spells`), and the pieces of each give back its own bytes.
-/

namespace ClauseTx.Json

open String (utf8EncodeChar)

/-! ## Pieces of a string -/

namespace Syntax

/-- A byte that stands for itself inside a string. -/
def IsBare (b : UInt8) : Prop :=
  b ≠ 0x22 ∧ ¬ b < 0x20 ∧ b ≠ 0x5C

theorem pieces?_bare {b : UInt8} (h : IsBare b) (bs : Bytes) :
    pieces? (b :: bs) = (pieces? bs).map fun (ps, rest) => (.byte b :: ps, rest) := by
  rw [pieces?.eq_def]
  dsimp only
  rw [if_neg h.1, if_neg h.2.1, if_pos h.2.2]

/-- An escape of one letter. -/
theorem pieces?_short {e b : UInt8} (he : e ≠ 0x75) (h : shortEscape? e = some b) (bs : Bytes) :
    pieces? (0x5C :: e :: bs) = (pieces? bs).map fun (ps, rest) => (.byte b :: ps, rest) := by
  rw [pieces?, if_neg (by decide), if_neg (by decide), if_neg (by decide)]
  · rw [h]
  · intro _ _ _ _ _ heq
    exact absurd heq he

/-- An escape of four digits. -/
theorem pieces?_unit {d₃ d₂ d₁ d₀ : UInt8} {n₃ n₂ n₁ n₀ : Nat} (h₃ : hexDigit? d₃ = some n₃)
    (h₂ : hexDigit? d₂ = some n₂) (h₁ : hexDigit? d₁ = some n₁) (h₀ : hexDigit? d₀ = some n₀)
    (bs : Bytes) :
    pieces? (0x5C :: 0x75 :: d₃ :: d₂ :: d₁ :: d₀ :: bs) = (pieces? bs).map fun (ps, rest) =>
      (.unit (((n₃ * 16 + n₂) * 16 + n₁) * 16 + n₀) :: ps, rest) := by
  rw [pieces?, if_neg (by decide), if_neg (by decide), if_neg (by decide)]
  simp only [h₃, h₂, h₁, h₀]

theorem hexDigit?_digit {n : Nat} (h : n < 16) : hexDigit? (Hex.digit n).toUInt8 = some n := by
  have hall : ∀ n : Fin 16, hexDigit? (Hex.digit n).toUInt8 = some n.val := by decide
  exact hall ⟨n, h⟩

end Syntax

/-! ## Characters -/

/-- Pieces that spell a character as it is written: they are read from it
whatever follows, and they give its bytes. -/
structure Spells (written : List Char) (c : Char) (ps : List Piece) : Prop where
  pieces?_append : ∀ rest, Syntax.pieces? (written.flatMap utf8EncodeChar ++ rest) =
    (Syntax.pieces? rest).map fun (qs, rest) => (ps ++ qs, rest)
  utf8?_append : ∀ qs, utf8? (ps ++ qs) = (utf8? qs).map (utf8EncodeChar c ++ ·)

namespace Spells

/-- A character as itself. -/
theorem bare {c : Char} (h : ∀ b ∈ utf8EncodeChar c, Syntax.IsBare b) :
    Spells [c] c ((utf8EncodeChar c).map .byte) := by
  refine ⟨fun rest => ?_, fun qs => ?_⟩
  · rw [List.flatMap_singleton]
    generalize utf8EncodeChar c = bs at h ⊢
    induction bs with
    | nil => simp
    | cons b bs ih =>
      rw [List.cons_append, Syntax.pieces?_bare (h b (List.mem_cons_self ..)),
        ih fun b' hb => h b' (List.mem_cons_of_mem _ hb), Option.map_map]
      rfl
  · generalize utf8EncodeChar c = bs
    induction bs with
    | nil => simp
    | cons b bs ih =>
      rw [List.map_cons, List.cons_append, utf8?, ih, Option.map_map]
      rfl

/-- A character as an escape of one letter. -/
theorem short {c e : Char} {d b : UInt8} (he : utf8EncodeChar e = [d]) (hd : d ≠ 0x75)
    (h : Syntax.shortEscape? d = some b) (hc : utf8EncodeChar c = [b]) :
    Spells ['\\', e] c [.byte b] := by
  refine ⟨fun rest => ?_, fun qs => ?_⟩
  · rw [List.flatMap_cons, List.flatMap_singleton, he]
    exact Syntax.pieces?_short hd h rest
  · rw [hc]
    rfl

/-- A control character as an escape of four digits. -/
theorem control {c : Char} (h : c.toNat < 0x20) :
    Spells ['\\', 'u', '0', '0', Nat.digitChar (c.toNat / 16), Nat.digitChar (c.toNat % 16)] c
      [.unit c.toNat] := by
  have hhigh : c.toNat / 16 < 16 := by omega
  have hlow : c.toNat % 16 < 16 := by omega
  refine ⟨fun rest => ?_, fun qs => ?_⟩
  · have hzero : 0 < 16 := by decide
    have hpieces := Syntax.pieces?_unit (Syntax.hexDigit?_digit hzero)
      (Syntax.hexDigit?_digit hzero) (Syntax.hexDigit?_digit hhigh) (Syntax.hexDigit?_digit hlow)
      rest
    have hvalue : ((0 * 16 + 0) * 16 + c.toNat / 16) * 16 + c.toNat % 16 = c.toNat := by omega
    have hbytes (n : Fin 16) : utf8EncodeChar (Nat.digitChar n) = [(Hex.digit n).toUInt8] :=
      (Hex.digitValue?_digit n).1
    simp only [List.flatMap_cons, List.flatMap_nil, hbytes ⟨_, hhigh⟩, hbytes ⟨_, hlow⟩]
    rw [hvalue] at hpieces
    exact hpieces
  · have hunit : (c.toNat < 0xD800 || 0xE000 ≤ c.toNat) = true := by
      simp only [Bool.or_eq_true, decide_eq_true_eq]
      omega
    rw [List.singleton_append, utf8?.eq_def]
    dsimp only
    rw [if_pos hunit, Char.ofNat_toNat]

end Spells

/-- The bytes of a character that needs no escape. -/
theorem Syntax.isBare_of_mem {c : Char} (hquote : c ≠ '"') (hbackslash : c ≠ '\\')
    (hprinted : ¬ c.toNat < 0x20) : ∀ b ∈ utf8EncodeChar c, IsBare b := by
  intro b hb
  rcases Nat.lt_or_ge 0x7F c.toNat with hhigh | hascii
  · have hle := Text.Utf8.le_of_mem_encodeChar hhigh b hb
    refine ⟨?_, Nat.not_lt_of_le (Nat.le_trans (by decide) hle), ?_⟩
    · rintro rfl
      exact absurd hle (by decide)
    · rintro rfl
      exact absurd hle (by decide)
  · rw [Text.Utf8.encodeChar_of_le hascii, List.mem_singleton] at hb
    have hnat : b.toNat = c.toNat := by
      rw [hb, UInt8.toNat_ofNat']
      omega
    refine ⟨?_, ?_, ?_⟩
    · rintro rfl
      exact hquote (Char.toNat_inj.mp hnat.symm)
    · rw [UInt8.lt_iff_toNat_lt, hnat]
      exact hprinted
    · rintro rfl
      exact hbackslash (Char.toNat_inj.mp hnat.symm)

/-- Every character is spelt by some pieces as it is written. -/
theorem exists_spells (c : Char) : ∃ ps, Spells (escape c) c ps := by
  unfold escape
  split
  case h_8 hquote hbackslash _ _ _ _ _ =>
    split
    case isTrue h => exact ⟨_, .control h⟩
    case isFalse h => exact ⟨_, .bare (Syntax.isBare_of_mem hquote hbackslash h)⟩
  -- The seven characters with an escape of one letter.
  all_goals exact ⟨_, .short rfl (by decide) rfl rfl⟩

/-! ## Texts -/

/-- The characters of a text up to the closing quote. -/
theorem exists_pieces (cs : List Char) (rest : Bytes) :
    ∃ ps, Syntax.pieces? ((cs.flatMap escape).flatMap utf8EncodeChar ++ 0x22 :: rest) =
        some (ps, rest) ∧ utf8? ps = some (cs.flatMap utf8EncodeChar) := by
  induction cs with
  | nil => exact ⟨[], Syntax.pieces?.eq_def _, rfl⟩
  | cons c cs ih =>
    obtain ⟨qs, hpieces, hbytes⟩ := ih
    obtain ⟨ps, hspells⟩ := exists_spells c
    refine ⟨ps ++ qs, ?_, ?_⟩
    · rw [List.flatMap_cons, List.flatMap_append, List.append_assoc, hspells.pieces?_append,
        hpieces]
      rfl
    · rw [hspells.utf8?_append, hbytes, List.flatMap_cons]
      rfl

theorem flatMap_quote (s : String) : (quote s).flatMap utf8EncodeChar =
    0x22 :: ((s.toList.flatMap escape).flatMap utf8EncodeChar ++ [0x22]) := by
  rw [quote, List.flatMap_append, List.flatMap_cons]
  rfl

/-- A text between quotes is read back. -/
theorem exists_pieces_quote (s : String) (rest : Bytes) :
    ∃ bs, (quote s).flatMap utf8EncodeChar ++ rest = 0x22 :: bs ∧
      ∃ ps, Syntax.pieces? bs = some (ps, rest) ∧ text? ps = some s := by
  obtain ⟨ps, hpieces, hbytes⟩ := exists_pieces s.toList rest
  refine ⟨_, ?_, ps, hpieces, ?_⟩
  · rw [flatMap_quote, List.cons_append, List.append_assoc]
    rfl
  · rw [text?, hbytes, Option.bind_eq_bind, Option.bind_some, Text.Utf8.decode?_encode]
    exact congrArg some (String.ofList_toList)

namespace Syntax

theorem skipBlanks_cons {b : UInt8}
    (h : (b == 0x20 || b == 0x0A || b == 0x0D || b == 0x09) = false) (bs : Bytes) :
    skipBlanks (b :: bs) = b :: bs :=
  List.dropWhile_cons_of_neg (by rw [h]; decide)

theorem value?_quote (s : String) (fuel : Nat) (rest : Bytes) :
    ∃ v, value? (fuel + 1) ((quote s).flatMap utf8EncodeChar ++ rest) = some (v, rest) ∧
      v.string? = some s := by
  obtain ⟨bs, hquote, ps, hpieces, htext⟩ := exists_pieces_quote s rest
  refine ⟨.string ps, ?_, htext⟩
  rw [hquote, value?, skipBlanks_cons rfl]
  dsimp only
  rw [if_pos rfl, hpieces]
  rfl

end Syntax

/-- A string is read back from its compact text. -/
theorem parse?_render_string (s : String) :
    parse? (Bytes.ofText (Json.string s).render) = some (.string s) := by
  have hbytes : Bytes.ofText (Json.string s).render = (quote s).flatMap utf8EncodeChar ++ [] := by
    rw [Bytes.ofText, render, String.toList_ofList, chars, List.append_nil]
  obtain ⟨v, hvalue, htext⟩ := Syntax.value?_quote s
    (2 * ((quote s).flatMap utf8EncodeChar ++ []).length + 1) []
  have hparse : Syntax.parse? (Bytes.ofText (Json.string s).render) = some v := by
    rw [hbytes, Syntax.parse?, hvalue]
    rfl
  rw [parse?, hparse, Option.bind_some]
  cases v with
  | string ps =>
    change text? ps = some s at htext
    rw [Syntax.toJson?, htext]
    rfl
  | _ => exact nomatch htext

/-! ## Objects -/

/-- A member of an object whose value is a text. -/
def textMember (member : String × String) : String × Json :=
  (member.1, .string member.2)

/-- An object whose values are texts. -/
def ofTexts (members : List (String × String)) : Json :=
  .object (members.map textMember)

namespace Syntax

/-- A member whose value is a text. -/
def textMember? (member : List Piece × Syntax) : Option (String × String) := do
  return (← text? member.1, ← member.2.string?)

/-- The members of an object whose values are texts. -/
def texts? : Syntax → Option (List (String × String))
  | .object members => members.mapM textMember?
  | _ => none

theorem textMember?_eq_some_iff {member : List Piece × Syntax} {key text : String} :
    textMember? member = some (key, text) ↔
      text? member.1 = some key ∧ member.2.string? = some text := by
  simp [textMember?, Option.bind_eq_some_iff]

/-- An object of one text has one member. -/
theorem exists_of_texts?_eq_singleton {syn : Syntax} {key text : String}
    (h : syn.texts? = some [(key, text)]) :
    ∃ k ps, syn = .object [(k, .string ps)] ∧ text? k = some key ∧ text? ps = some text := by
  cases syn with
  | object members =>
    match members, h with
    | [(k, v)], h =>
      have hmember : textMember? (k, v) = some (key, text) := by
        simpa [texts?, Option.bind_eq_some_iff] using h
      obtain ⟨hkey, htext⟩ := textMember?_eq_some_iff.mp hmember
      cases v with
      | string ps => exact ⟨k, ps, rfl, hkey, htext⟩
      | _ => exact nomatch htext
    | first :: second :: members, h => simp [texts?, Option.bind_eq_some_iff] at h
  | _ => exact nomatch h

/-- A member is read, and what follows it tells whether it is the last. -/
theorem members?_member (key text : String) (fuel : Nat) (rest : Bytes) :
    ∃ member, textMember? member = some (key, text) ∧
      members? (fuel + 2) ((quote key).flatMap utf8EncodeChar ++ 0x3A ::
          ((quote text).flatMap utf8EncodeChar ++ rest)) =
        match skipBlanks rest with
        | 0x2C :: bs => do
          let (ms, rest) ← members? (fuel + 1) bs
          return (member :: ms, rest)
        | 0x7D :: rest => return ([member], rest)
        | _ => none := by
  obtain ⟨bs, hquote, k, hpieces, hkey⟩ :=
    exists_pieces_quote key (0x3A :: ((quote text).flatMap utf8EncodeChar ++ rest))
  obtain ⟨v, hvalue, htext⟩ := value?_quote text fuel rest
  refine ⟨(k, v), textMember?_eq_some_iff.mpr ⟨hkey, htext⟩, ?_⟩
  rw [hquote, members?, skipBlanks_cons rfl]
  change (pieces? bs).bind _ = _
  rw [hpieces, Option.bind_some]
  dsimp only
  rw [skipBlanks_cons rfl]
  change (value? (fuel + 1) ((quote text).flatMap utf8EncodeChar ++ rest)).bind _ = _
  rw [hvalue]
  rfl

/-- The bytes of a member, a comma and the members after it. -/
theorem flatMap_memberChars_cons (first second : String × String)
    (members : List (String × String)) (rest : Bytes) :
    (memberChars ((first :: second :: members).map textMember)).flatMap utf8EncodeChar ++ rest =
      (quote first.1).flatMap utf8EncodeChar ++ 0x3A ::
        ((quote first.2).flatMap utf8EncodeChar ++ 0x2C ::
          ((memberChars ((second :: members).map textMember)).flatMap utf8EncodeChar ++ rest)) := by
  have hchars : memberChars ((first :: second :: members).map textMember) =
      quote first.1 ++ ':' :: quote first.2 ++
        ',' :: memberChars ((second :: members).map textMember) := rfl
  rw [hchars, List.flatMap_append, List.flatMap_append, List.flatMap_cons, List.flatMap_cons,
    List.append_assoc, List.append_assoc]
  rfl

theorem flatMap_memberChars_singleton (member : String × String) (rest : Bytes) :
    (memberChars ([member].map textMember)).flatMap utf8EncodeChar ++ rest =
      (quote member.1).flatMap utf8EncodeChar ++ 0x3A ::
        ((quote member.2).flatMap utf8EncodeChar ++ rest) := by
  have hchars : memberChars ([member].map textMember) =
      quote member.1 ++ ':' :: quote member.2 := rfl
  rw [hchars, List.flatMap_append, List.flatMap_cons, List.append_assoc]
  rfl

/-- The bytes of members start with the quote of the first key, and there are
more of them than members. -/
theorem exists_flatMap_memberChars (first : String × String) (members : List (String × String))
    (rest : Bytes) :
    ∃ bs, (memberChars ((first :: members).map textMember)).flatMap utf8EncodeChar ++ rest =
      0x22 :: bs ∧ members.length ≤ bs.length := by
  induction members generalizing first with
  | nil =>
    rw [flatMap_memberChars_singleton, flatMap_quote first.1, List.cons_append]
    exact ⟨_, rfl, Nat.zero_le _⟩
  | cons second members ih =>
    obtain ⟨bs, hbytes, hlen⟩ := ih second
    rw [flatMap_memberChars_cons, hbytes, flatMap_quote first.1, List.cons_append]
    refine ⟨_, rfl, ?_⟩
    simp only [List.length_append, List.length_cons]
    omega

/-- The members of a written object are read back. -/
theorem members?_textMember (first : String × String) (members : List (String × String))
    (fuel : Nat) (hfuel : members.length ≤ fuel) (rest : Bytes) :
    ∃ ms, members? (fuel + 2) ((memberChars ((first :: members).map textMember)).flatMap
        utf8EncodeChar ++ 0x7D :: rest) = some (ms, rest) ∧
      ms.mapM textMember? = some (first :: members) := by
  induction members generalizing first fuel with
  | nil =>
    obtain ⟨m, hm, hmembers⟩ := members?_member first.1 first.2 fuel (0x7D :: rest)
    refine ⟨[m], ?_, ?_⟩
    · rw [flatMap_memberChars_singleton, hmembers, skipBlanks_cons rfl]
      rfl
    · rw [List.mapM_cons, hm]
      rfl
  | cons second members ih =>
    cases fuel with
    | zero => exact nomatch hfuel
    | succ fuel =>
      obtain ⟨ms, hrest, htexts⟩ := ih second fuel (Nat.le_of_succ_le_succ hfuel)
      obtain ⟨m, hm, hmembers⟩ := members?_member first.1 first.2 (fuel + 1) (0x2C ::
        ((memberChars ((second :: members).map textMember)).flatMap utf8EncodeChar ++
          0x7D :: rest))
      refine ⟨m :: ms, ?_, ?_⟩
      · rw [flatMap_memberChars_cons, hmembers, skipBlanks_cons rfl]
        change (members? (fuel + 2) _).bind _ = _
        rw [hrest]
        rfl
      · rw [List.mapM_cons, hm, htexts]
        rfl

end Syntax

/-- An object of texts is read back from its compact text. -/
theorem texts?_render (members : List (String × String)) :
    (Syntax.parse? (Bytes.ofText (ofTexts members).render)).bind Syntax.texts? = some members := by
  have hbytes : Bytes.ofText (ofTexts members).render = 0x7B ::
      ((memberChars (members.map textMember)).flatMap utf8EncodeChar ++ [0x7D]) := by
    rw [Bytes.ofText, render, String.toList_ofList, ofTexts, chars, List.flatMap_append,
      List.flatMap_cons]
    rfl
  rw [hbytes]
  cases members with
  | nil => rfl
  | cons first members =>
    obtain ⟨bs, hbs, hlen⟩ := Syntax.exists_flatMap_memberChars first members [0x7D]
    obtain ⟨ms, hmembers, htexts⟩ :=
      Syntax.members?_textMember first members (2 * bs.length + 3) (by omega) []
    rw [hbs] at hmembers ⊢
    have hvalue : Syntax.value? (2 * (0x7B :: 0x22 :: bs).length + 2) (0x7B :: 0x22 :: bs) =
        some (.object ms, []) := by
      rw [List.length_cons, List.length_cons, Syntax.value?, Syntax.skipBlanks_cons rfl]
      dsimp only
      rw [if_neg (by decide), if_pos rfl, Syntax.skipBlanks_cons rfl]
      change (Syntax.members? (2 * bs.length + 3 + 2) (0x22 :: bs)).map _ = _
      rw [hmembers]
      rfl
    rw [Syntax.parse?, hvalue]
    exact htexts

end ClauseTx.Json
