import PcRemote.ConfigValidation
import PcRemote.Numeral

/-! The owner, as the two sides of the firmware see it: an incoming update is accepted by the text
of its sender's id, an outgoing message goes to the configured text read as a number. -/
namespace PcRemote.ConfigValidation
open Text

lemma telegramUserIdMatches_iff (v : String) (id : ℤ) :
    telegramUserIdMatches v id = true ↔ toString id = normalizeTelegramUserId v := beq_iff_eq

/-- At most one id is ever accepted. -/
lemma telegramUserIdMatches_unique {v : String} {a b : ℤ} (ha : telegramUserIdMatches v a = true)
    (hb : telegramUserIdMatches v b = true) : a = b := by
  rw [telegramUserIdMatches_iff] at ha hb
  exact toString_int_injective (ha.trans hb.symm)

lemma telegramUserIdMatches_iff_parse {v : String} {id : ℤ} (hlo : i64Min ≤ id)
    (hhi : id ≤ i64Max) :
    telegramUserIdMatches v id = true ↔
      parseTelegramUserId v = some id ∧ isPlainDecimal (normalizeTelegramUserId v) = true := by
  rw [telegramUserIdMatches_iff]
  exact toString_eq_iff hlo hhi _

/-- Where messages have a destination, the owner's own commands are all rejected exactly when the
number is spelt in another way than it is printed. -/
lemma no_match_iff {v : String} {id : ℤ} (h : parseTelegramUserId v = some id) :
    (∀ a, telegramUserIdMatches v a = false) ↔
      isPlainDecimal (normalizeTelegramUserId v) = false := by
  obtain ⟨hlo, hhi⟩ := bounds_of_parseSigned h
  rw [← not_iff_not]
  simp only [not_forall, Bool.not_eq_false]
  constructor
  · rintro ⟨a, ha⟩
    rw [← (telegramUserIdMatches_iff v a).mp ha]
    exact isPlainDecimal_toString a
  · intro hplain
    exact ⟨id, (telegramUserIdMatches_iff_parse hlo hhi).mpr ⟨h, hplain⟩⟩

/-- The owner whose commands are accepted is the chat that the messages go to, provided that the
number is spelt as it is printed; under another spelling there may be such a chat, and no command
is accepted from it. -/
theorem owner_identity (v : String) :
    (∀ id, i64Min ≤ id → id ≤ i64Max → (telegramUserIdMatches v id = true ↔
      parseTelegramUserId v = some id ∧ isPlainDecimal (normalizeTelegramUserId v) = true)) ∧
    (∀ a b, telegramUserIdMatches v a = true → telegramUserIdMatches v b = true → a = b) ∧
    (∀ id, parseTelegramUserId v = some id → ((∀ a, telegramUserIdMatches v a = false) ↔
      isPlainDecimal (normalizeTelegramUserId v) = false)) :=
  ⟨fun _ hlo hhi => telegramUserIdMatches_iff_parse hlo hhi,
    fun _ _ => telegramUserIdMatches_unique, fun _ => no_match_iff⟩

theorem owner_identity_padded :
    telegramUserIdMatches "  12345 \n" 12345 = true ∧
      (∀ a, telegramUserIdMatches "  12345 \n" a = true → a = 12345) ∧
      ∀ a, telegramUserIdMatches "007" a = false :=
  have hpadded : telegramUserIdMatches "  12345 \n" 12345 = true :=
    ((owner_identity "  12345 \n").1 12345 (by decide) (by decide)).mpr (by decide)
  ⟨hpadded, fun a ha => (owner_identity "  12345 \n").2.1 a 12345 ha hpadded,
    ((owner_identity "007").2.2 7 (by decide)).mpr (by decide)⟩

/-- A plus sign is read, and printed never. -/
theorem owner_identity_plus_sign :
    parseTelegramUserId "+123" = some 123 ∧ telegramUserIdMatches "+123" 123 = false ∧
      ∀ a, telegramUserIdMatches "+123" a = false := by
  have hread : parseTelegramUserId "+123" = some 123 := by decide
  have hnone := (no_match_iff hread).mpr (by decide)
  exact ⟨hread, hnone 123, hnone⟩

end PcRemote.ConfigValidation
