import TableGateway.Cipher.Codebook

/-!
# Lists of whole blocks

A list of bytes is cut into blocks without loss, and what is done to its blocks is done
to each of them alone.  So a list of whole blocks keeps its length, and a function on
blocks is undone block by block.
-/

namespace TableGateway

theorem Column.toList_ofListAt {bytes : List UInt8} {i : Nat} (h : i + 4 ≤ bytes.length) :
    (ofListAt bytes i).toList = (bytes.drop i).take 4 := by
  have hget : ∀ j (hj : j < bytes.length), bytes.getD j 0 = bytes[j] := by
    intro j hj
    rw [List.getD_eq_getElem?_getD, List.getElem?_eq_getElem hj, Option.getD_some]
  rw [List.drop_eq_getElem_cons (by omega), List.drop_eq_getElem_cons (by omega),
    List.drop_eq_getElem_cons (by omega), List.drop_eq_getElem_cons (by omega)]
  unfold ofListAt toList
  rw [hget i (by omega), hget (i + 1) (by omega), hget (i + 2) (by omega), hget (i + 3) (by omega)]
  rfl

theorem Block.toList_ofList {bytes : List UInt8} (h : bytes.length = size) :
    (ofList bytes).toList = bytes := by
  unfold size at h
  rw [ofList, toList, Column.toList_ofListAt (by omega), Column.toList_ofListAt (by omega),
    Column.toList_ofListAt (by omega), Column.toList_ofListAt (by omega), List.drop_zero,
    ← List.take_add, ← List.take_add, ← List.take_add, List.take_of_length_le (by omega)]

theorem mapBlocks_nil (f : Block → Block) : mapBlocks f [] = [] := by
  rw [mapBlocks, if_pos (by decide)]

theorem mapBlocks_cons {block : List UInt8} (h : block.length = Block.size) (f : Block → Block)
    (rest : List UInt8) :
    mapBlocks f (block ++ rest) = (f (.ofList block)).toList ++ mapBlocks f rest := by
  rw [mapBlocks, if_neg (by simp [h]), List.take_left' h, List.drop_left' h]

inductive Whole : List UInt8 → Prop where
  | nil : Whole []
  | cons {block rest : List UInt8} (hblock : block.length = Block.size) (hrest : Whole rest) :
      Whole (block ++ rest)

theorem whole_of_length {bytes : List UInt8} (h : bytes.length % Block.size = 0) :
    Whole bytes := by
  -- The cut that `mapBlocks` makes is the one to follow.
  fun_induction mapBlocks id bytes with
  | case1 bytes hlt =>
      have hlength : bytes.length = 0 := by rwa [Nat.mod_eq_of_lt hlt] at h
      rw [List.length_eq_zero_iff.mp hlength]
      exact .nil
  | case2 bytes hge ih =>
      have hle : Block.size ≤ bytes.length := Nat.le_of_not_lt hge
      have hblock : (bytes.take Block.size).length = Block.size := by
        rw [List.length_take, Nat.min_eq_left hle]
      have hrest : (bytes.drop Block.size).length % Block.size = 0 := by
        rw [List.length_drop, ← Nat.mod_eq_sub_mod hle, h]
      rw [← List.take_append_drop Block.size bytes]
      exact .cons hblock (ih hrest)

theorem length_mapBlocks (f : Block → Block) {bytes : List UInt8} (h : Whole bytes) :
    (mapBlocks f bytes).length = bytes.length := by
  induction h with
  | nil => rw [mapBlocks_nil]
  | cons hblock hrest ih =>
      rw [mapBlocks_cons hblock, List.length_append, List.length_append, ih, hblock,
        Block.length_toList]

theorem mapBlocks_append (f : Block → Block) {bytes : List UInt8} (h : Whole bytes)
    (rest : List UInt8) : mapBlocks f (bytes ++ rest) = mapBlocks f bytes ++ mapBlocks f rest := by
  induction h with
  | nil => rw [mapBlocks_nil, List.nil_append, List.nil_append]
  | cons hblock hrest ih =>
      rw [List.append_assoc, mapBlocks_cons hblock, mapBlocks_cons hblock, ih, List.append_assoc]

theorem mapBlocks_mapBlocks {f g : Block → Block} (hgf : ∀ x, g (f x) = x) {bytes : List UInt8}
    (h : Whole bytes) : mapBlocks g (mapBlocks f bytes) = bytes := by
  induction h with
  | nil => rw [mapBlocks_nil, mapBlocks_nil]
  | cons hblock hrest ih =>
      rw [mapBlocks_cons hblock, mapBlocks_cons (Block.length_toList _), ih, Block.ofList_toList,
        hgf, Block.toList_ofList hblock]

end TableGateway
