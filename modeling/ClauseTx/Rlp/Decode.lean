import ClauseTx.Rlp.Error

/-!
# Decoding items

`split` cuts the first item off a byte string by its header alone.  `decode`
reads an item that makes up a whole byte string; the payload of a list is cut
into its children and each is read in the same way.

Only what `encode` writes is accepted: a length has no leading zero and is
above 55 where a width precedes it, and a byte below `80` has no header.
-/

namespace ClauseTx.Rlp

/-- The first item of a byte string, with its payload not yet read. -/
structure Split where
  isList : Bool
  /-- Whether the single payload byte stands there without a header. -/
  isBare : Bool
  payload : Bytes
  rest : Bytes

/-- Cuts a payload of known length off a byte string. -/
def takePayload (isList : Bool) (length : Nat) (bs : Bytes) : Except Error Split :=
  let payload := bs.take length
  if payload.length < length then .error .truncated
  else .ok ⟨isList, false, payload, bs.drop length⟩

/-- Reads a length of a known width, and cuts off the payload. -/
def takeLong (isList : Bool) (width : Nat) (bs : Bytes) : Except Error Split :=
  match bs with
  | [] => .error .truncated
  | first :: _ =>
    if first = 0 then .error .leadingZeroLength
    else if bs.length < width then .error .truncated
    else
      let length := Bytes.toNat (bs.take width)
      if length ≤ 55 then .error .nonCanonical
      else takePayload isList length (bs.drop width)

/-- Cuts the first item off a byte string. -/
def split : Bytes → Except Error Split
  | [] => .error .truncated
  | b :: bs =>
    if b < 0x80 then .ok ⟨false, true, [b], bs⟩
    else if b < 0xB8 then takePayload false (b.toNat - 0x80) bs
    else if b < 0xC0 then takeLong false (b.toNat - 0xB7) bs
    else if b < 0xF8 then takePayload true (b.toNat - 0xC0) bs
    else takeLong true (b.toNat - 0xF7) bs

theorem takePayload_length {isList : Bool} {length : Nat} {bs : Bytes} {s : Split}
    (h : takePayload isList length bs = .ok s) :
    s.payload.length + s.rest.length = bs.length := by
  unfold takePayload at h
  dsimp only at h
  split at h
  · exact nomatch h
  · injection h with h
    subst h
    simp only [List.length_take, List.length_drop]
    omega

theorem takeLong_length {isList : Bool} {width : Nat} {bs : Bytes} {s : Split}
    (h : takeLong isList width bs = .ok s) :
    s.payload.length + s.rest.length ≤ bs.length := by
  unfold takeLong at h
  split at h
  · exact nomatch h
  · dsimp only at h
    split at h
    · exact nomatch h
    · split at h
      · exact nomatch h
      · split at h
        · exact nomatch h
        · rw [takePayload_length h, List.length_drop]
          omega

/-- What is not header is shorter than the whole, unless a bare byte is all
there is of the item. -/
theorem split_length {bs : Bytes} {s : Split} (h : split bs = .ok s) :
    s.rest.length < bs.length ∧ (s.isList = true → s.payload.length < bs.length) := by
  match bs, h with
  | b :: bs, h =>
    rw [split] at h
    simp only [List.length_cons]
    split at h
    · injection h with h
      subst h
      simp
    · split at h
      · have := takePayload_length h; omega
      · split at h
        · have := takeLong_length h; omega
        · split at h
          · have := takePayload_length h; omega
          · have := takeLong_length h; omega

/-- The byte string of a split item.  A byte below `80` must not have a
header. -/
def Split.content (s : Split) : Except Error Item :=
  match s.payload with
  | [b] => if !s.isBare && b < 0x80 then .error .nonCanonical else .ok (.bytes [b])
  | payload => .ok (.bytes payload)

/-- Reads the items that make up a payload. -/
def decodeItems (bs : Bytes) : Except Error (List Item) :=
  if bs.isEmpty then .ok []
  else
    match _h : split bs with
    | .error e => .error e
    | .ok s =>
      let item :=
        if _hl : s.isList = true then
          match decodeItems s.payload with
          | .ok items => .ok (.list items)
          | .error e => .error e
        else s.content
      match item with
      | .error e => .error e
      | .ok item =>
        match decodeItems s.rest with
        | .error e => .error e
        | .ok items => .ok (item :: items)
termination_by bs.length
decreasing_by
  · exact (split_length _h).2 _hl
  · exact (split_length _h).1

/-- Reads the payload of a split item. -/
def Split.item (s : Split) : Except Error Item :=
  if s.isList then
    match decodeItems s.payload with
    | .ok items => .ok (.list items)
    | .error e => .error e
  else s.content

/-- Reads one item that makes up a whole byte string. -/
def decode (bs : Bytes) : Except Error Item :=
  match split bs with
  | .error e => .error e
  | .ok s =>
    match s.item with
    | .error e => .error e
    | .ok item => if s.rest.isEmpty then .ok item else .error (.trailingBytes s.rest.length)

end ClauseTx.Rlp
