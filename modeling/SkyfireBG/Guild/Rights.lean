import SkyfireBG.Guild.Data

/-!
# SkyfireBG.Guild.Rights

The rank rights the handlers test, and what `_HasRankRight` answers.

A right is told from the others by one bit.  Most rights carry the bit of `GR_RIGHT_EMPTY` besides;
the test compares with `GR_RIGHT_EMPTY`, which needs that bit on both sides.
-/

namespace SkyfireBG

inductive TestedRight where
  | gchatListen
  | gchatSpeak
  | offchatListen
  | offchatSpeak
  | invite
  | remove
  | promote
  | demote
  | setMotd
  | epNote
  | eoffNote
  | modifyGuildInfo
  | withdrawRepair
  | withdrawGold
deriving DecidableEq, Repr

namespace TestedRight

def mask : TestedRight → BitVec 32
  | gchatListen => GR_RIGHT_GCHATLISTEN
  | gchatSpeak => GR_RIGHT_GCHATSPEAK
  | offchatListen => GR_RIGHT_OFFCHATLISTEN
  | offchatSpeak => GR_RIGHT_OFFCHATSPEAK
  | invite => GR_RIGHT_INVITE
  | remove => GR_RIGHT_REMOVE
  | promote => GR_RIGHT_PROMOTE
  | demote => GR_RIGHT_DEMOTE
  | setMotd => GR_RIGHT_SETMOTD
  | epNote => GR_RIGHT_EPNOTE
  | eoffNote => GR_RIGHT_EOFFNOTE
  | modifyGuildInfo => GR_RIGHT_MODIFY_GUILD_INFO
  | withdrawRepair => GR_RIGHT_WITHDRAW_REPAIR
  | withdrawGold => GR_RIGHT_WITHDRAW_GOLD

def bit : TestedRight → Nat
  | gchatListen => 0
  | gchatSpeak => 1
  | offchatListen => 2
  | offchatSpeak => 3
  | invite => 4
  | remove => 5
  | promote => 7
  | demote => 8
  | setMotd => 12
  | epNote => 13
  | eoffNote => 15
  | modifyGuildInfo => 16
  | withdrawRepair => 18
  | withdrawGold => 19

/-- The rights that carry the bit of `GR_RIGHT_EMPTY`. -/
def carriesEmpty : TestedRight → Bool
  | withdrawRepair => false
  | withdrawGold => false
  | _ => true

theorem bit_lt (r : TestedRight) : r.bit < 32 := by cases r <;> decide

theorem bit_ne_six (r : TestedRight) : r.bit ≠ 6 := by cases r <;> decide

theorem mask_eq (r : TestedRight) :
    r.mask = (if r.carriesEmpty then GR_RIGHT_EMPTY else 0) ||| BitVec.twoPow 32 r.bit := by
  cases r <;> decide

end TestedRight

theorem empty_eq_twoPow : GR_RIGHT_EMPTY = BitVec.twoPow 32 6 := by decide

theorem getLsbD_empty (i : Nat) : GR_RIGHT_EMPTY.getLsbD i = decide (i = 6) := by
  rw [empty_eq_twoPow, BitVec.getLsbD_twoPow]
  by_cases h : i = 6
  · subst h; rfl
  · simp [h, Ne.symm h]

theorem TestedRight.getLsbD_mask (r : TestedRight) (i : Nat) :
    r.mask.getLsbD i = (r.carriesEmpty && decide (i = 6) || decide (i = r.bit)) := by
  have hb := r.bit_lt
  rw [r.mask_eq, BitVec.getLsbD_or, BitVec.getLsbD_twoPow]
  cases r.carriesEmpty <;> by_cases hi : i = r.bit
  · simp [hi, hb]
  · simp [hi, Ne.symm hi]
  · simp [hi, hb]
  · simp [hi, Ne.symm hi, getLsbD_empty]

/-- What is left of a rank's rights under the mask of one right is `GR_RIGHT_EMPTY` when both carry
its bit and the right itself is missing, and never otherwise. -/
theorem and_mask_eq_empty (rights : BitVec 32) (r : TestedRight) :
    rights &&& r.mask = GR_RIGHT_EMPTY ↔
      rights.getLsbD 6 = true ∧ r.carriesEmpty = true ∧ rights.getLsbD r.bit = false := by
  have hbit (i : Nat) : (rights &&& r.mask).getLsbD i =
      (rights.getLsbD i && (r.carriesEmpty && decide (i = 6) || decide (i = r.bit))) := by
    rw [BitVec.getLsbD_and, r.getLsbD_mask]
  constructor
  · intro h
    have h6 := hbit 6
    have hr := hbit r.bit
    rw [h, getLsbD_empty] at h6 hr
    have hne := r.bit_ne_six
    have hne' : ¬ 6 = r.bit := fun h => hne h.symm
    simp only [hne', hne, decide_false, decide_true, Bool.or_false, Bool.and_true, Bool.or_true]
      at h6 hr
    simp only [Bool.true_eq, Bool.and_eq_true] at h6
    exact ⟨h6.1, h6.2, hr.symm⟩
  · rintro ⟨h6, hc, hr⟩
    apply BitVec.eq_of_getLsbD_eq
    intro i _
    rw [hbit, getLsbD_empty, hc]
    by_cases hi : i = 6
    · subst hi
      simp [h6]
    · by_cases hir : i = r.bit
      · subst hir
        simp [hr, hi]
      · simp [hi, hir]

theorem hasRankRight_eq_false (g : Guild) (rankId : Nat) (r : TestedRight) :
    g.hasRankRight rankId r.mask = false ↔
      (g.getRankRights rankId).getLsbD 6 = true ∧ r.carriesEmpty = true ∧
        (g.getRankRights rankId).getLsbD r.bit = false := by
  unfold Guild.hasRankRight
  rw [bne_eq_false_iff_eq, and_mask_eq_empty]

/-- The test answers as the rank's mask says exactly when the mask holds the right, or both the mask
and the tested value carry the bit of `GR_RIGHT_EMPTY`. -/
theorem rank_right_exact (g : Guild) (rankId : Nat) (r : TestedRight) :
    (g.hasRankRight rankId r.mask = true ↔ (g.getRankRights rankId).getLsbD r.bit = true) ↔
      (g.getRankRights rankId).getLsbD r.bit = true ∨
        ((g.getRankRights rankId).getLsbD 6 = true ∧ r.mask.getLsbD 6 = true) := by
  have hfalse := hasRankRight_eq_false g rankId r
  have hmask : r.mask.getLsbD 6 = r.carriesEmpty := by
    have hne : ¬ 6 = r.bit := fun h => r.bit_ne_six h.symm
    rw [r.getLsbD_mask]
    simp [hne]
  rw [hmask]
  cases hh : g.hasRankRight rankId r.mask <;> cases hb : (g.getRankRights rankId).getLsbD r.bit
  · have := hfalse.mp hh
    simp [this.1, this.2.1]
  · have := hfalse.mp hh
    rw [hb] at this
    cases this.2.2
  · have hnot : ¬ ((g.getRankRights rankId).getLsbD 6 = true ∧ r.carriesEmpty = true) := by
      rintro ⟨h6, hc⟩
      rw [hfalse.mpr ⟨h6, hc, hb⟩] at hh
      cases hh
    simp only [hnot, Bool.false_eq_true, or_false, iff_false, not_true_eq_false]
  · simp

/-- A veteran of a new guild may take gold, which his rank was never given. -/
theorem rank_right_withdraw :
    ¬ (((({ id := 1, leaderGuid := 1 } : Guild).createDefaultGuildRanks).hasRankRight 2
        GR_RIGHT_WITHDRAW_GOLD = true) ↔
      ((({ id := 1, leaderGuid := 1 } : Guild).createDefaultGuildRanks).getRankRights 2).getLsbD
        (TestedRight.bit .withdrawGold) = true) := by
  decide

end SkyfireBG
