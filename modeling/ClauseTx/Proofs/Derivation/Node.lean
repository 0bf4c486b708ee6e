import ClauseTx.Derivation.Node
import ClauseTx.Proofs.Derivation.Path
import ClauseTx.Proofs.Outcome

/-!
# Ways to one node

A node is reached by a path from another node, child by child, from a seed, or
from a mnemonic.  All of these follow one list of indices (`derive_eq_ok_iff`),
and a list is followed part by part (`deriveAlong_append`).  So the ways agree:
two paths in a row are one longer path, a child is the path of its number, and
a mnemonic stands for its seed.

The statements are about success.  Where one way fails the other one fails as
well, though it may give another reason.
-/

namespace ClauseTx

namespace Node

open ClauseTx.Path (extended)

/-- A path is followed part by part. -/
theorem deriveAlong_append (node : Node) (front back : Path) :
    node.deriveAlong (front ++ back) =
      (node.deriveAlong front).bind fun middle => middle.deriveAlong back :=
  List.foldlM_append

theorem deriveAlong_singleton (node : Node) (child : ChildIndex) :
    node.deriveAlong [child] = node.child? child := by
  simp only [deriveAlong, List.foldlM_cons, List.foldlM_nil, bind_pure]

theorem derive_eq_ok_iff {node descendant : Node} {text : String} :
    node.derive text = .ok descendant ↔
      ∃ path, Path.parse text = .ok path ∧ node.deriveAlong path = some descendant := by
  rw [derive, bind_eq_ok_iff]
  constructor
  · rintro ⟨path, hpath, h⟩
    refine ⟨path, hpath, ?_⟩
    split at h
    case h_1 heq =>
      injection h with h
      rwa [h] at heq
    case h_2 => cases h
  · rintro ⟨path, hpath, h⟩
    refine ⟨path, hpath, ?_⟩
    rw [h]

/-- Segments that are read are followed child by child. -/
theorem derive_root_eq_ok_iff {node descendant : Node} {segments : List (List Char)} {path : Path}
    (h : segments.mapM Path.segment? = some path) :
    node.derive (extended "m" segments) = .ok descendant ↔
      path.foldlM child? node = some descendant := by
  simp only [derive_eq_ok_iff, Path.parse_root h, Except.ok.injEq]
  exact exists_eq_left'

/-- Segments behind a path are followed from its end. -/
theorem derive_extended_eq_ok_iff (text : String) {node descendant : Node}
    {segments : List (List Char)} :
    node.derive (extended text segments) = .ok descendant ↔
      ∃ middle, node.derive text = .ok middle ∧
        middle.derive (extended "m" segments) = .ok descendant := by
  simp only [derive_eq_ok_iff, Path.parse_extended_eq_ok_iff text]
  constructor
  · rintro ⟨_, ⟨front, back, hfront, hback, rfl⟩, h⟩
    rw [deriveAlong_append, Option.bind_eq_some_iff] at h
    obtain ⟨middle, hmiddle, h⟩ := h
    exact ⟨middle, ⟨front, hfront, hmiddle⟩, back, hback, h⟩
  · rintro ⟨middle, ⟨front, hfront, hmiddle⟩, back, hback, h⟩
    refine ⟨front ++ back, ⟨front, back, hfront, hback, rfl⟩, ?_⟩
    rw [deriveAlong_append, hmiddle, Option.bind_some, h]

/-- The child with a number is at the end of the path of this number. -/
theorem deriveChild_eq_ok_iff {node child : Node} {index : Nat} :
    node.deriveChild index = .ok child ↔
      node.derive (extended "m" [Nat.toDigits 10 index]) = .ok child := by
  rw [derive_eq_ok_iff, deriveChild]
  simp only [Path.parse_eq_ok_iff, Path.parse?_number, Option.ite_none_right_eq_some,
    Option.some.injEq]
  by_cases hindex : index < Path.indexBound
  · rw [if_pos hindex]
    constructor
    · intro h
      refine ⟨_, ⟨hindex, rfl⟩, ?_⟩
      rw [deriveAlong_singleton]
      split at h
      case h_1 heq =>
        injection h with h
        rwa [h] at heq
      case h_2 => cases h
    · rintro ⟨_, ⟨-, rfl⟩, h⟩
      rw [deriveAlong_singleton] at h
      rw [h]
  · rw [if_neg hindex]
    constructor
    · intro h
      cases h
    · rintro ⟨_, ⟨h, -⟩, -⟩
      exact absurd h hindex

/-- A mnemonic leads where its seed leads. -/
theorem ofMnemonic_eq_ok_iff {words : List String} {text passphrase : String} {node : Node} :
    ofMnemonic words text passphrase = .ok node ↔
      ∃ seed start, Mnemonic.seed words passphrase = .ok seed ∧
        ofSeed seed.bytes = .ok start ∧ start.derive text = .ok node := by
  rw [ofMnemonic, bind_eq_ok_iff]
  simp only [bind_eq_ok_iff, derive_eq_ok_iff]
  constructor
  · rintro ⟨seed, hseed, path, hpath, h⟩
    split at h
    case h_2 => cases h
    case h_1 heq =>
      injection h with h
      subst h
      obtain ⟨start, hstart, hderive⟩ := Option.bind_eq_some_iff.mp heq
      exact ⟨seed, start, hseed, toOption_eq_some_iff.mp hstart, path, hpath, hderive⟩
  · rintro ⟨seed, start, hseed, hstart, path, hpath, hderive⟩
    refine ⟨seed, hseed, path, hpath, ?_⟩
    have hbind : (ofSeed seed.bytes).toOption.bind (·.deriveAlong path) = some node :=
      Option.bind_eq_some_iff.mpr ⟨start, toOption_eq_some_iff.mpr hstart, hderive⟩
    rw [hbind]

end Node

open ClauseTx.Path (extended)

/-- The address at the end of a path is that of the node at the end of the
longer path. -/
theorem Address.ofMnemonic_eq_ok_iff {words : List String} {text : String} {a : Address} :
    Address.ofMnemonic words text = .ok a ↔
      ∃ segments node, text = extended "m" segments ∧
        Node.ofMnemonic words (extended Path.accountsText segments) "" = .ok node ∧
        node.address = a := by
  rw [Address.ofMnemonic, bind_eq_ok_iff]
  simp only [bind_eq_ok_iff, pure_eq_ok_iff, Node.ofMnemonic_eq_ok_iff,
    Node.derive_extended_eq_ok_iff Path.accountsText]
  constructor
  · rintro ⟨accounts, ⟨seed, start, hseed, hstart, haccounts⟩, node, hnode, ha⟩
    obtain ⟨path, hpath, -⟩ := Node.derive_eq_ok_iff.mp hnode
    obtain ⟨segments, rfl⟩ := Path.eq_extended_of_parse hpath
    exact ⟨segments, node, rfl, ⟨seed, start, hseed, hstart, accounts, haccounts, hnode⟩, ha⟩
  · rintro ⟨segments, node, rfl, ⟨seed, start, hseed, hstart, accounts, haccounts, hnode⟩, ha⟩
    exact ⟨accounts, ⟨seed, start, hseed, hstart, haccounts⟩, node, hnode, ha⟩

/-- All ways to a node agree.  The segments of a path are followed child by
child, and segments behind any path are followed from its end.  A child is the
path of its number, also where the number is too large.  A mnemonic leads where
its seed leads, and an address is that of the node whose path is the path of
the accounts with the segments behind it. -/
theorem derivations_compose :
    (∀ (node descendant : Node) (segments : List (List Char)) (path : Path),
        segments.mapM Path.segment? = some path →
          (node.derive (extended "m" segments) = .ok descendant ↔
            path.foldlM Node.child? node = some descendant)) ∧
      (∀ (node descendant : Node) (text : String) (segments : List (List Char)),
        node.derive (extended text segments) = .ok descendant ↔
          ∃ middle, node.derive text = .ok middle ∧
            middle.derive (extended "m" segments) = .ok descendant) ∧
      (∀ (node child : Node) (index : Nat), node.deriveChild index = .ok child ↔
        node.derive ("m/" ++ Nat.repr index) = .ok child) ∧
      (∀ (words : List String) (text passphrase : String) (node : Node),
        Node.ofMnemonic words text passphrase = .ok node ↔
          ∃ seed start, Mnemonic.seed words passphrase = .ok seed ∧
            Node.ofSeed seed.bytes = .ok start ∧ start.derive text = .ok node) ∧
      ∀ (words : List String) (text : String) (a : Address),
        Address.ofMnemonic words text = .ok a ↔
          ∃ segments node, text = extended "m" segments ∧
            Node.ofMnemonic words (extended Path.accountsText segments) "" = .ok node ∧
            node.address = a := by
  refine ⟨?_, ?_, ?_, ?_, ?_⟩
  · intro node descendant segments path hpath
    exact Node.derive_root_eq_ok_iff hpath
  · intro node descendant text segments
    exact Node.derive_extended_eq_ok_iff text
  · intro node child index
    have htext : "m/" ++ Nat.repr index = extended "m" [Nat.toDigits 10 index] := by
      refine String.toList_inj.mp ?_
      rw [Path.toList_extended, String.toList_append, Nat.toList_repr, List.flatMap_singleton]
      rfl
    rw [htext]
    exact Node.deriveChild_eq_ok_iff
  · intro words text passphrase node
    exact Node.ofMnemonic_eq_ok_iff
  · intro words text a
    exact Address.ofMnemonic_eq_ok_iff

/-- Two hardened steps from a seed, each with its own mark, at once and one
after the other. -/
theorem derivations_compose_hardened :
    [['0', '\''], ['1', 'h']].mapM Path.segment? = some [⟨0, true⟩, ⟨1, true⟩] ∧
      ∃ start descendant middle, Node.ofSeed (List.replicate 16 0) = .ok start ∧
        start.derive (extended "m" [['0', '\''], ['1', 'h']]) = .ok descendant ∧
        start.derive (extended "m" [['0', '\'']]) = .ok middle ∧
        middle.derive (extended "m" [['1', 'h']]) = .ok descendant := by
  have hsegments : [['0', '\''], ['1', 'h']].mapM Path.segment? =
      some [⟨0, true⟩, ⟨1, true⟩] := rfl
  have hsteps : ((Node.ofSeed (List.replicate 16 0)).toOption.bind fun start =>
      [⟨0, true⟩, ⟨1, true⟩].foldlM Node.child? start).isSome = true := by
    decide +kernel
  obtain ⟨descendant, hsteps⟩ := Option.isSome_iff_exists.mp hsteps
  obtain ⟨start, hstart, hsteps⟩ := Option.bind_eq_some_iff.mp hsteps
  obtain ⟨hfollow, hcompose, -⟩ := derivations_compose
  have hderive := (hfollow start descendant _ _ hsegments).mpr hsteps
  obtain ⟨middle, hmiddle, hrest⟩ :=
    (hcompose start descendant (extended "m" [['0', '\'']]) [['1', 'h']]).mp hderive
  exact ⟨hsegments, start, descendant, middle, toOption_eq_some_iff.mp hstart, hderive, hmiddle,
    hrest⟩

end ClauseTx
