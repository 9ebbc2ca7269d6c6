import RoomBridge.Proofs.DisplayName.Expansion

/-!
# Names of rooms that can be read

A contact of the cloud has a number, so its room can always be called by that. What a template makes
of the contact is the name only if it has a letter or a digit in it, and if the template asks for the
person's name, only if one of the names it asks for is known.

* `tidy_formatPhone` : a number as it is shown has no white space at its ends;
* `displayName_readable` : the name of a contact's room.
-/

namespace RoomBridge

open Text (Tidy blank)

theorem tidy_formatPhone {raw : String} (h : blank raw = false) : Tidy (formatPhone raw) := by
  have htidy : Tidy (Text.trim raw) := Text.tidy_trim h
  unfold formatPhone
  dsimp only
  split
  · exact htidy
  · exact htidy
  · next hne _ =>
    have htext : ("+" ++ Text.trim raw).toList = '+' :: (Text.trim raw).toList :=
      String.toList_append
    refine ⟨?_, ?_, ?_⟩
    · rw [blank, htext, List.all_cons]
      rfl
    · intro c hc
      rw [htext, List.head?_cons, Option.some.injEq] at hc
      subst hc
      decide
    · intro c hc
      rw [htext, List.getLast?_cons_of_ne_nil hne] at hc
      exact htidy.last c hc

namespace ContactCard

theorem shownPhone_ofProfile (waId : String) (profileName : Option String) :
    (ofProfile waId profileName).shownPhone = formatPhone waId := by
  simp only [shownPhone, ofProfile, Option.map_some, Option.getD_some]

/-- **A room has a name that can be read.** Whatever the template and the name of the profile, the
room of a contact with a number has a name that is not empty and has no white space at its ends: the
number, or a text with a letter or a digit in it. It is the number wherever the template asks for the
person's name and each name it asks for is missing or blank, whatever else it holds. -/
theorem displayName_readable {waId : String} (hwaId : blank waId = false) (template : String)
    (profileName : Option String) :
    let card := ofProfile waId profileName
    let name := card.displayName template
    name ≠ "" ∧ Tidy name ∧
      (name = formatPhone waId ∨ ∃ c ∈ name.toList, Text.isAlphanumeric c = true) ∧
      ∀ pieces, Template.Scan template.toList pieces → card.Nameless pieces →
        name = formatPhone waId := by
  intro card name
  have hname : card.displayName template = _ :=
    displayName_eq (Template.scan_segments template.toList)
  rw [shownPhone_ofProfile] at hname
  have hends : Tidy name ∧
      (name = formatPhone waId ∨ ∃ c ∈ name.toList, Text.isAlphanumeric c = true) := by
    split at hname
    · have heq : name = formatPhone waId := hname
      rw [heq]
      exact ⟨tidy_formatPhone hwaId, .inl rfl⟩
    · next hread =>
      have heq : name = String.ofList (Text.trimmed _) := hname
      rw [not_or, Bool.not_eq_false, List.any_eq_true] at hread
      obtain ⟨-, c, hc, halnum⟩ := hread
      rw [heq, String.toList_ofList]
      exact ⟨Text.tidy_trimmed hc, .inr ⟨c, hc, halnum⟩⟩
  refine ⟨?_, hends.1, hends.2, ?_⟩
  · intro hempty
    have hblank : blank name = false := hends.1.blank_eq
    rw [hempty] at hblank
    cases hblank
  · intro pieces hscan hnameless
    calc card.displayName template
      _ = card.shownPhone := by rw [displayName_eq hscan, if_pos (.inl hnameless)]
      _ = formatPhone waId := shownPhone_ofProfile waId profileName

/-- A template with more in it than the person's name. -/
def wordyTemplate : String := "Chat with \x7b\x7b.PushName\x7d\x7d on \x7b\x7bPhone\x7d\x7d"

/-- A name of one ideographic space fills no placeholder, and the rest of the template does not
help. -/
theorem displayName_readable_space :
    blank "5550001" = false ∧
      (ofProfile "5550001" (some "\u3000")).displayName wordyTemplate = "+5550001" := by
  have hwaId : blank "5550001" = false := by decide
  have hnameless : (ofProfile "5550001" (some "\u3000")).Nameless
      (Template.segments wordyTemplate.toList) := by decide +kernel
  have hphone : formatPhone "5550001" = "+5550001" := by decide +kernel
  obtain ⟨-, -, -, hname⟩ := displayName_readable hwaId wordyTemplate (some "\u3000")
  exact ⟨hwaId, (hname _ (Template.scan_segments _) hnameless).trans hphone⟩

end ContactCard

end RoomBridge
