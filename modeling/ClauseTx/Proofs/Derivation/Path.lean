import ClauseTx.Derivation.Path
import ClauseTx.Proofs.Text.Split

/-!
# The texts of paths

A path is read segment by segment, so segments that are put behind a text are
read behind what the text was read as (`parse?_extended`).

Account paths are recognised by their form.  `parse_of_isAccountPath` says how
far this carries: every segment names an index (`namedIndex`), and the text is
read as these indices exactly if all of them lie below the bound.  The form
does not know the bound, so there are account paths that cannot be read
(`isAccountPath_beyond_bound`).
-/

namespace ClauseTx.Path

open Text (splitOn decimalValue)

/-! ## Reading by segments -/

/-- A list is read only if each of its members is. -/
theorem exists_of_mapM_eq_some {α β : Type} {read : α → Option β} {xs : List α} {ys : List β}
    (h : xs.mapM read = some ys) {x : α} (hx : x ∈ xs) : ∃ y, read x = some y := by
  induction xs generalizing ys with
  | nil => cases hx
  | cons first rest ih =>
    rw [List.mapM_cons] at h
    obtain ⟨y, hy, h⟩ := Option.bind_eq_some_iff.mp h
    obtain ⟨ys', hys, -⟩ := Option.bind_eq_some_iff.mp h
    rcases List.mem_cons.mp hx with rfl | hx
    · exact ⟨y, hy⟩
    · exact ih hys hx

/-- A path with further segments at its end. -/
def extended (path : String) (segments : List (List Char)) : String :=
  path ++ String.ofList (segments.flatMap ('/' :: ·))

theorem toList_extended (path : String) (segments : List (List Char)) :
    (extended path segments).toList = path.toList ++ segments.flatMap ('/' :: ·) := by
  rw [extended, String.toList_append, String.toList_ofList]

theorem parse?_of_splitOn {text first : List Char} {segments : List (List Char)}
    (h : splitOn '/' text = first :: segments) :
    parse? text = if first = ['m'] then segments.mapM segment? else none := by
  rw [parse?, h]
  split
  case h_1 heq =>
    injection heq with hfirst hsegments
    rw [if_pos hfirst, hsegments]
  case h_2 hne =>
    rw [if_neg]
    rintro rfl
    exact hne segments rfl

theorem parse_eq_ok_iff {text : String} {path : Path} :
    parse text = .ok path ↔ parse? text.toList = some path := by
  rw [parse]
  split <;> simp_all

/-- A text that is read starts with `m`, and all else is segments. -/
theorem eq_extended_of_parse {text : String} {path : Path} (h : parse text = .ok path) :
    ∃ segments, text = extended "m" segments := by
  rw [parse_eq_ok_iff] at h
  obtain ⟨first, segments, hsplit⟩ :=
    List.exists_cons_of_ne_nil (Text.splitOn_ne_nil '/' text.toList)
  rw [parse?_of_splitOn hsplit, Option.ite_none_right_eq_some] at h
  refine ⟨segments, String.toList_inj.mp ?_⟩
  rw [toList_extended, Text.eq_of_splitOn hsplit, h.1]
  rfl

/-- Segments are read behind what stands in front of them. -/
theorem parse?_extended (text : String) (segments : List (List Char)) :
    parse? (extended text segments).toList =
      (parse? text.toList).bind fun path =>
        (parse? (extended "m" segments).toList).map (path ++ ·) := by
  have hroot : splitOn '/' (extended "m" segments).toList =
      ['m'] :: segments.flatMap (splitOn '/') := by
    rw [toList_extended, Text.splitOn_append_flatMap]
    rfl
  obtain ⟨first, front, hsplit⟩ := List.exists_cons_of_ne_nil (Text.splitOn_ne_nil '/' text.toList)
  have hwhole : splitOn '/' (extended text segments).toList =
      first :: (front ++ segments.flatMap (splitOn '/')) := by
    rw [toList_extended, Text.splitOn_append_flatMap, hsplit, List.cons_append]
  rw [parse?_of_splitOn hwhole, parse?_of_splitOn hsplit, parse?_of_splitOn hroot, if_pos rfl,
    List.mapM_append]
  split
  · cases front.mapM segment? with
    | none => rfl
    | some path => cases (segments.flatMap (splitOn '/')).mapM segment? <;> rfl
  · rfl

theorem parse_extended_eq_ok_iff (text : String) {segments : List (List Char)} {path : Path} :
    parse (extended text segments) = .ok path ↔
      ∃ front back, parse text = .ok front ∧ parse (extended "m" segments) = .ok back ∧
        path = front ++ back := by
  simp only [parse_eq_ok_iff, parse?_extended text, Option.bind_eq_some_iff, Option.map_eq_some_iff]
  constructor
  · rintro ⟨front, hfront, back, hback, rfl⟩
    exact ⟨front, back, hfront, hback, rfl⟩
  · rintro ⟨front, back, hfront, hback, rfl⟩
    exact ⟨front, hfront, back, hback, rfl⟩

/-! ## Segments -/

/-- Digits are an index without a mark. -/
theorem segment?_of_digits {digits : List Char} (h : ∀ c ∈ digits, c.isDigit = true) :
    segment? digits = index? digits false := by
  have hlast {c : Char} (hc : digits.getLast? = some c) : c.isDigit = true :=
    h c (List.mem_of_getLast? hc)
  rw [segment?, if_neg]
  simp only [Bool.or_eq_true, decide_eq_true_eq, not_or]
  constructor
  · intro hc
    exact absurd (hlast hc) (by decide)
  · intro hc
    exact absurd (hlast hc) (by decide)

theorem index?_of_digits {digits : List Char} (h : isIndexText digits = true) (isHardened : Bool) :
    index? digits isHardened =
      if decimalValue digits < indexBound then some ⟨decimalValue digits, isHardened⟩
      else none := by
  simp only [isIndexText, Bool.and_eq_true, Bool.not_eq_true', List.isEmpty_eq_false_iff,
    List.all_eq_true] at h
  have hdecimal : Text.decimal? digits = some (decimalValue digits) :=
    Text.decimal?_eq_some_iff.mpr ⟨h.1, h.2, rfl⟩
  rw [index?, Text.signedDecimal?_of_digits h.2, hdecimal]

/-- A number has no separator in it. -/
theorem not_mem_of_signedDecimal? {cs : List Char} {n : Nat}
    (h : Text.signedDecimal? cs = some n) : '/' ∉ cs := by
  have hdigits {digits : List Char} (hn : Text.decimal? digits = some n) : '/' ∉ digits := by
    intro hslash
    exact absurd ((Text.decimal?_eq_some_iff.mp hn).2.1 '/' hslash) (by decide)
  unfold Text.signedDecimal? at h
  split at h
  · exact List.not_mem_cons_of_ne_of_not_mem (by decide) (hdigits h)
  · exact hdigits h

theorem not_mem_of_index? {digits : List Char} {isHardened : Bool} {child : ChildIndex}
    (h : index? digits isHardened = some child) : '/' ∉ digits := by
  rw [index?] at h
  split at h
  case h_1 hn => exact not_mem_of_signedDecimal? hn
  case h_2 => cases h

/-- A segment that is read is one segment. -/
theorem not_mem_of_segment? {segment : List Char} {child : ChildIndex}
    (h : segment? segment = some child) : '/' ∉ segment := by
  rw [segment?] at h
  split at h
  case isTrue hmark =>
    intro hslash
    have hne : segment ≠ [] := List.ne_nil_of_mem hslash
    rw [← List.dropLast_concat_getLast hne, List.mem_append, List.mem_singleton] at hslash
    rcases hslash with hfront | hlast
    · exact not_mem_of_index? h hfront
    · rw [List.getLast?_eq_some_getLast hne, ← hlast] at hmark
      exact absurd hmark (by decide)
  case isFalse => exact not_mem_of_index? h

/-- Segments behind the root are read one by one. -/
theorem parse?_root {segments : List (List Char)} (h : ∀ s ∈ segments, '/' ∉ s) :
    parse? (extended "m" segments).toList = segments.mapM segment? := by
  have hpieces : segments.flatMap (splitOn '/') = segments := by
    induction segments with
    | nil => rfl
    | cons s segments ih =>
      obtain ⟨hs, hsegments⟩ := List.forall_mem_cons.mp h
      rw [List.flatMap_cons, ih hsegments, Text.splitOn_eq, List.splitOn_eq_singleton hs]
      rfl
  have hroot : splitOn '/' (extended "m" segments).toList = ['m'] :: segments := by
    rw [toList_extended, Text.splitOn_append_flatMap, hpieces]
    rfl
  rw [parse?_of_splitOn hroot, if_pos rfl]

theorem parse_root {segments : List (List Char)} {path : Path}
    (h : segments.mapM segment? = some path) : parse (extended "m" segments) = .ok path := by
  rw [parse_eq_ok_iff, parse?_root, h]
  intro s hs
  obtain ⟨child, hchild⟩ := exists_of_mapM_eq_some h hs
  exact not_mem_of_segment? hchild

/-- A path of one number. -/
theorem parse?_number (n : Nat) :
    parse? (extended "m" [Nat.toDigits 10 n]).toList =
      if n < indexBound then some [⟨n, false⟩] else none := by
  have hdigits : ∀ c ∈ Nat.toDigits 10 n, c.isDigit = true := by
    intro c hc
    exact Nat.isDigit_of_mem_toDigits (by decide) (by decide) hc
  have hslash : ∀ s ∈ [Nat.toDigits 10 n], '/' ∉ s := by
    rw [List.forall_mem_singleton]
    intro hslash
    exact absurd (hdigits '/' hslash) (by decide)
  rw [parse?_root hslash, List.mapM_cons, List.mapM_nil, segment?_of_digits hdigits, index?,
    Text.signedDecimal?_of_digits hdigits, Text.decimal?_toDigits]
  dsimp only
  split <;> rfl

/-! ## Account paths -/

/-- The digits of a segment of an account path. -/
def unmarked (segment : List Char) : List Char :=
  if segment.getLast? = some '\'' then segment.dropLast else segment

/-- The index that a segment of an account path names: the number of its
digits, hardened if the mark `'` follows them. -/
def namedIndex (segment : List Char) : ChildIndex :=
  ⟨decimalValue (unmarked segment), segment.getLast? = some '\''⟩

/-- Digits need no mark. -/
theorem isMarkedIndexText_of_isIndexText {segment : List Char} (h : isIndexText segment = true) :
    isMarkedIndexText segment = true := by
  rw [isMarkedIndexText, if_neg]
  · exact h
  · intro hlast
    simp only [isIndexText, Bool.and_eq_true, List.all_eq_true] at h
    exact absurd (h.2 '\'' (List.mem_of_getLast? hlast)) (by decide)

theorem segment?_of_isMarkedIndexText {segment : List Char}
    (h : isMarkedIndexText segment = true) :
    segment? segment =
      if (namedIndex segment).index < indexBound then some (namedIndex segment) else none := by
  by_cases hlast : segment.getLast? = some '\''
  · rw [isMarkedIndexText, if_pos hlast] at h
    rw [segment?, if_pos (by simp [hlast]), index?_of_digits h]
    simp [namedIndex, unmarked, hlast]
  · rw [isMarkedIndexText, if_neg hlast] at h
    have hdigits : ∀ c ∈ segment, c.isDigit = true := by
      simp only [isIndexText, Bool.and_eq_true, List.all_eq_true] at h
      exact h.2
    rw [segment?_of_digits hdigits, index?_of_digits h]
    simp [namedIndex, unmarked, hlast]

theorem mapM_segment?_of_isMarkedIndexText {segments : List (List Char)}
    (h : ∀ s ∈ segments, isMarkedIndexText s = true) :
    segments.mapM segment? =
      if ∀ s ∈ segments, (namedIndex s).index < indexBound then some (segments.map namedIndex)
      else none := by
  induction segments with
  | nil => rfl
  | cons s segments ih =>
    rw [List.mapM_cons, segment?_of_isMarkedIndexText (h s (List.mem_cons_self ..)),
      ih fun t ht => h t (List.mem_cons_of_mem _ ht)]
    by_cases hs : (namedIndex s).index < indexBound
    · by_cases hrest : ∀ t ∈ segments, (namedIndex t).index < indexBound
      · have hall : ∀ t ∈ s :: segments, (namedIndex t).index < indexBound :=
          List.forall_mem_cons.mpr ⟨hs, hrest⟩
        rw [if_pos hs, if_pos hrest, if_pos hall]
        rfl
      · have hnot : ¬ ∀ t ∈ s :: segments, (namedIndex t).index < indexBound :=
          fun hall => hrest (List.forall_mem_cons.mp hall).2
        rw [if_pos hs, if_neg hrest, if_neg hnot]
        rfl
    · have hnot : ¬ ∀ t ∈ s :: segments, (namedIndex t).index < indexBound :=
        fun hall => hs (List.forall_mem_cons.mp hall).1
      rw [if_neg hs, if_neg hnot]
      rfl

/-- An account path has four or five segments, and each is digits that one mark
may follow. -/
theorem exists_of_isAccountPath {text : String} (h : isAccountPath text = true) :
    ∃ segments, splitOn '/' text.toList = ['m'] :: segments ∧
      (segments.length = 4 ∨ segments.length = 5) ∧
      ∀ s ∈ segments, isMarkedIndexText s = true := by
  rw [isAccountPath] at h
  split at h
  case h_2 => cases h
  case h_1 segments hsplit =>
    simp only [Bool.and_eq_true, Bool.or_eq_true, decide_eq_true_eq, List.all_eq_true] at h
    obtain ⟨⟨hlen, hfront⟩, hback⟩ := h
    refine ⟨segments, hsplit, hlen, ?_⟩
    intro s hs
    rw [← List.take_append_drop 3 segments, List.mem_append] at hs
    rcases hs with hs | hs
    · exact hfront s hs
    · exact isMarkedIndexText_of_isIndexText (hback s hs)

/-- An account path is `m` and four or five segments.  It is read, with one
index for each segment and hardened where the mark `'` stands, exactly if
every index lies below the bound. -/
theorem parse_of_isAccountPath {text : String} (h : isAccountPath text = true) :
    ∃ segments, text = extended "m" segments ∧ (segments.length = 4 ∨ segments.length = 5) ∧
      parse text =
        if ∀ s ∈ segments, (namedIndex s).index < indexBound then .ok (segments.map namedIndex)
        else .error (.illegalArgument (.pathText text)) := by
  obtain ⟨segments, hsplit, hlen, hsegments⟩ := exists_of_isAccountPath h
  refine ⟨segments, ?_, hlen, ?_⟩
  · refine String.toList_inj.mp ?_
    rw [toList_extended, Text.eq_of_splitOn hsplit]
    rfl
  · rw [parse, parse?_of_splitOn hsplit, if_pos rfl, mapM_segment?_of_isMarkedIndexText hsegments]
    by_cases hbound : ∀ s ∈ segments, (namedIndex s).index < indexBound
    · rw [if_pos hbound, if_pos hbound]
    · rw [if_neg hbound, if_neg hbound]

theorem parse_of_isAccountPath_accounts :
    isAccountPath accountsText = true ∧
      ∃ segments, accountsText = extended "m" segments ∧
        (segments.length = 4 ∨ segments.length = 5) ∧
        parse accountsText = .ok (segments.map namedIndex) := by
  have haccount : isAccountPath accountsText = true := by decide +kernel
  obtain ⟨segments, htext, hlen, hparse⟩ := parse_of_isAccountPath haccount
  refine ⟨haccount, segments, htext, hlen, ?_⟩
  have hread : parse accountsText =
      .ok [⟨44, true⟩, ⟨818, true⟩, ⟨0, true⟩, ⟨0, false⟩] := rfl
  split at hparse
  · exact hparse
  · rw [hread] at hparse
    cases hparse

/-- The form of an account path does not make it a path: the first index is the
bound itself. -/
theorem isAccountPath_beyond_bound :
    isAccountPath "m/2147483648/0/0/0" = true ∧
      parse "m/2147483648/0/0/0" = .error (.illegalArgument (.pathText "m/2147483648/0/0/0")) :=
  ⟨by decide +kernel, rfl⟩

end ClauseTx.Path
