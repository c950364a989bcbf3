/-!
Lower case, for words that are recognised in any case. Every such word is ASCII, so only ASCII
letters change.
-/

namespace RpcRegistry.Text

def lowerCase (text : List Char) : List Char := text.map Char.toLower

theorem toLower_toLower (c : Char) : c.toLower.toLower = c.toLower := by
  unfold Char.toLower
  split
  · rename_i upper
    -- A capital moves up by thirty-two, past the last capital.
    rw [dif_neg]
    intro again
    have words : 'A'.val.toNat = 65 ∧ 'Z'.val.toNat = 90 ∧ ('a'.val - 'A'.val).toNat = 32 := by
      decide
    have first := UInt32.le_iff_toNat_le.1 upper.1
    have last := UInt32.le_iff_toNat_le.1 upper.2
    have stillLast := UInt32.le_iff_toNat_le.1 again.2
    rw [UInt32.toNat_add] at stillLast
    omega
  · rfl

theorem lowerCase_lowerCase (text : List Char) : lowerCase (lowerCase text) = lowerCase text := by
  unfold lowerCase
  rw [List.map_map]
  exact List.map_congr_left fun c _ => toLower_toLower c

end RpcRegistry.Text
