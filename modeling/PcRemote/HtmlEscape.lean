import PcRemote.Entities
import PcRemote.StatusMessage

/-! The values of the status message, as the HTML of Telegram reads them: they bring no tag with
them, and they can be read back. -/
namespace PcRemote.StatusMessage
open Entities

def htmlEntities : List (Char × List Char) :=
  [('&', "&amp;".toList), ('<', "&lt;".toList), ('>', "&gt;".toList)]

/-- The entities are replaced in one pass from left to right. -/
def unescapeHtml (text : String) : String := String.ofList (unescape htmlEntities text.toList)

example : escapeHtml "a&lt;<" = "a&amp;lt;&lt;" ∧ unescapeHtml "a&amp;lt;&lt;" = "a&lt;<" := by
  decide

/-- A character is one of the three with an entity, or it is written as it is. -/
lemma escapeChar_cases (c : Char) :
    (c, escapeChar c) ∈ htmlEntities ∨
      escapeChar c = [c] ∧ c ≠ '&' ∧ c ≠ '<' ∧ c ≠ '>' := by
  by_cases hspecial : c = '&' ∨ c = '<' ∨ c = '>'
  · left
    rcases hspecial with rfl | rfl | rfl <;> decide
  · simp only [not_or] at hspecial
    right
    refine ⟨?_, hspecial⟩
    unfold escapeChar
    split
    · exact absurd rfl hspecial.1
    · exact absurd rfl hspecial.2.1
    · exact absurd rfl hspecial.2.2
    · rfl

lemma escapes_html : Escapes htmlEntities escapeChar where
  written c := by
    refine (escapeChar_cases c).imp id ?_
    rintro ⟨hsame, hamp, -⟩
    refine ⟨hsame, fun p hp => ?_⟩
    have hmark : p.2.head? = some '&' := by
      revert p
      decide
    rw [hmark, ne_eq, Option.some.injEq]
    exact fun he => hamp he.symm
  nonempty := by decide
  prefixFree := by decide

lemma unescapeHtml_escapeHtml (s : String) : unescapeHtml (escapeHtml s) = s := by
  rw [unescapeHtml, escapeHtml, String.toList_ofList, escapes_html.unescape_flatMap,
    String.ofList_toList]

lemma escapeHtml_injective : Function.Injective escapeHtml :=
  Function.LeftInverse.injective unescapeHtml_escapeHtml

/-- No bracket is written. -/
lemma notMem_escapeHtml {b : Char} (hb : b = '<' ∨ b = '>') (s : String) :
    b ∉ (escapeHtml s).toList := by
  rw [escapeHtml, String.toList_ofList, List.mem_flatMap]
  rintro ⟨c, -, hmem⟩
  rcases escapeChar_cases c with hentity | ⟨hsame, -, hlt, hgt⟩
  · have hnone : ∀ p ∈ htmlEntities, '<' ∉ p.2 ∧ '>' ∉ p.2 := by decide
    rcases hb with rfl | rfl
    · exact (hnone _ hentity).1 hmem
    · exact (hnone _ hentity).2 hmem
  · rw [hsame, List.mem_singleton] at hmem
    rcases hb with rfl | rfl
    · exact hlt hmem.symm
    · exact hgt hmem.symm

/-- Each ampersand that is written begins an entity. -/
lemma entity_of_ampersand {s : String} {pre post : List Char}
    (h : (escapeHtml s).toList = pre ++ '&' :: post) :
    ∃ p ∈ htmlEntities, p.2 <+: '&' :: post := by
  rw [escapeHtml, String.toList_ofList] at h
  obtain ⟨c, -, u, v, rest, hblock, rfl⟩ := exists_block h
  rcases escapeChar_cases c with hentity | ⟨hsame, hamp, -⟩
  · have hfirst : ∀ p ∈ htmlEntities, '&' ∉ p.2.tail := by decide
    have hstart : u = [] := by
      cases u with
      | nil => rfl
      | cons d u => exact absurd (by simp [hblock]) (hfirst _ hentity)
    subst hstart
    refine ⟨_, hentity, ?_⟩
    rw [hblock]
    exact ⟨rest, by simp⟩
  · rw [hsame] at hblock
    have hmem : '&' ∈ [c] := by simp [hblock]
    exact absurd (List.mem_singleton.mp hmem).symm hamp

/-- The texts from an opening bracket to the next closing one; the last may be unfinished. -/
def tagsFrom : Option (List Char) → List Char → List (List Char)
  | none, [] => []
  | some tag, [] => [tag]
  | none, c :: s => if c = '<' then tagsFrom (some [c]) s else tagsFrom none s
  | some tag, c :: s =>
      if c = '>' then (tag ++ [c]) :: tagsFrom none s else tagsFrom (some (tag ++ [c])) s

def tags (text : String) : List String := (tagsFrom none text.toList).map String.ofList

lemma tagsFrom_append {u : List Char} (hu : '<' ∉ u) (s : List Char) :
    tagsFrom none (u ++ s) = tagsFrom none s := by
  induction u with
  | nil => rfl
  | cons c u ih =>
    rw [List.mem_cons, not_or] at hu
    rw [List.cons_append, tagsFrom, if_neg (Ne.symm hu.1), ih hu.2]

lemma tagsFrom_escapeHtml (value : String) (s : List Char) :
    tagsFrom none ((escapeHtml value).toList ++ s) = tagsFrom none s :=
  tagsFrom_append (notMem_escapeHtml (.inl rfl) value) s

lemma tagsFrom_actionsText (status : PcControlStatus) (s : List Char) :
    tagsFrom none ((actionsText status).toList ++ s) = tagsFrom none s :=
  tagsFrom_append (by cases status <;> simp [actionsText]) s

lemma tags_statusMessageHtml (status : PcControlStatus) (pcLabel batteryText version : String) :
    tags (statusMessageHtml status pcLabel batteryText version) =
      ["<b>", "</b>", "<b>", "</b>"] := by
  have htitle : ∀ s, tagsFrom none ("🖥️ <b>PC ・ ".toList ++ s) =
      "<b>".toList :: tagsFrom none s := fun s => by simp [tagsFrom]
  have hclose : ∀ s, tagsFrom none ("</b>\n".toList ++ s) =
      "</b>".toList :: tagsFrom none s := fun s => by simp [tagsFrom]
  have hdevice : ∀ s, tagsFrom none ("\n\n📱 <b>M5Stack</b>\n🔋 ".toList ++ s) =
      "<b>".toList :: "</b>".toList :: tagsFrom none s := fun s => by simp [tagsFrom]
  have hversion : ∀ s, tagsFrom none ("\n🏷️ v".toList ++ s) = tagsFrom none s :=
    fun s => by simp [tagsFrom]
  have hend : tagsFrom none (escapeHtml version).toList = [] := by
    have happend := tagsFrom_escapeHtml version []
    rwa [List.append_nil] at happend
  unfold tags statusMessageHtml
  simp only [String.toList_append, List.append_assoc, -String.reduceToList]
  rw [htitle, tagsFrom_escapeHtml, hclose, tagsFrom_actionsText, hdevice, tagsFrom_escapeHtml,
    hversion, hend]
  simp

/-- Whatever the values are, escaping them brings no bracket, begins only entities with an
ampersand and loses nothing; the only tags of the message are those of its template. -/
theorem escapeHtml_safe_and_lossless :
    (∀ s, '<' ∉ (escapeHtml s).toList ∧ '>' ∉ (escapeHtml s).toList ∧
      (∀ pre post, (escapeHtml s).toList = pre ++ '&' :: post →
        ∃ p ∈ htmlEntities, p.2 <+: '&' :: post) ∧
      unescapeHtml (escapeHtml s) = s) ∧
    Function.Injective escapeHtml ∧
    ∀ status pcLabel batteryText version,
      tags (statusMessageHtml status pcLabel batteryText version) =
        ["<b>", "</b>", "<b>", "</b>"] :=
  ⟨fun s => ⟨notMem_escapeHtml (.inl rfl) s, notMem_escapeHtml (.inr rfl) s,
    fun _ _ => entity_of_ampersand, unescapeHtml_escapeHtml s⟩,
    escapeHtml_injective, tags_statusMessageHtml⟩

end PcRemote.StatusMessage
