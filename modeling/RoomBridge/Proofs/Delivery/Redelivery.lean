import RoomBridge.Proofs.EmittedIds

/-!
# Deliveries that come again

A body may be delivered more than once, when other sessions are registered, under other settings and
to services that fail elsewhere. None of this goes into an id, and a failure cuts the ids off at the
end: of two deliveries of one body, one queues the ids of the other and perhaps more.

* `queuedIds_dispatch` : the ids that a delivery reports are those that the queues have taken;
* `redelivery_comparable` : two deliveries of one body, and who receives both.
-/

namespace RoomBridge

/-! ## First occurrences in two lists -/

section

variable {α : Type} [DecidableEq α]

/-- What is there already adds nothing new. -/
theorem eraseDups_append_of_subset {as bs : List α} (h : ∀ b ∈ bs, b ∈ as) :
    (as ++ bs).eraseDups = as.eraseDups := by
  have hnone : bs.removeAll as = [] := List.filter_eq_nil_iff.mpr fun b hb => by simp [h b hb]
  rw [List.eraseDups_append, hnone, List.eraseDups_nil, List.append_nil]

/-- Starting over and going on adds what going on adds. -/
theorem eraseDups_append_of_prefix {as bs : List α} (h : as <+: bs) :
    (as ++ bs).eraseDups = bs.eraseDups := by
  obtain ⟨rest, rfl⟩ := h
  have hagain : as.removeAll as = [] := List.filter_eq_nil_iff.mpr fun a ha => by simp [ha]
  have hrest : (as ++ rest).removeAll as = as.removeAll as ++ rest.removeAll as :=
    List.filter_append _ _
  rw [List.eraseDups_append, hrest, hagain, List.nil_append, List.eraseDups_append]

end

namespace Delivery

/-- The ids that a delivery reports are those of the messages that the queues have taken. -/
theorem queuedIds_dispatch {σ : Type} (world : World σ) (settings : Settings) (body : Bytes)
    (s : σ) :
    let run := (dispatch settings body).effect world s
    queuedIds run.exchanges = run.result.queued := by
  rcases dispatch_cases world settings body s with
    ⟨-, businessId, failure, t, xs, hrun, hstore⟩ |
    ⟨accepted, session, t, xs, ids, failure, u, ys, hfind, hbatch, hrun⟩
  · rw [hrun]
    exact queuedIds_eq_nil fun x hx => by simp [hstore x hx]
  · rw [hrun, (findSession_ok hfind).2]
    exact hbatch.queuedIds_eq

/-- **A body that is delivered again brings the same ids, in the same order.** However the two
deliveries differ in their sessions, settings and services, the ids that one of them queues are the
first of those that the other queues. Whoever receives both and passes over the ids met before is
left with those of the longer one. -/
theorem redelivery_comparable {σ τ : Type} (world : World σ) (other : World τ)
    (settings changed : Settings) (body : Bytes) (s : σ) (t : τ) :
    let first := (dispatch settings body).effect world s
    let again := (dispatch changed body).effect other t
    let old := first.result.queued
    let new := again.result.queued
    (old <+: new ∨ new <+: old) ∧
    queuedIds first.exchanges = old ∧ queuedIds again.exchanges = new ∧
    (old ++ new).eraseDups = (if old.length ≤ new.length then new else old).eraseDups := by
  intro first again old new
  have hcomparable : old <+: new ∨ new <+: old :=
    List.prefix_or_prefix_of_prefix (queued_prefix_messagesOf world settings body s)
      (queued_prefix_messagesOf other changed body t)
  refine ⟨hcomparable, queuedIds_dispatch world settings body s,
    queuedIds_dispatch other changed body t, ?_⟩
  split
  · rename_i hle
    refine eraseDups_append_of_prefix (hcomparable.elim id fun h => ?_)
    exact (h.eq_of_length_le hle) ▸ List.prefix_rfl
  · rename_i hlonger
    refine eraseDups_append_of_subset fun id hid => ?_
    rcases hcomparable with h | h
    · exact absurd h.length_le hlonger
    · exact h.mem hid

/-- The second of two messages is queued only where its attachment can be uploaded. -/
example :
    ((dispatch trialSettings imageBody).effect (.answering fun
      | .uploadContent _ _ => some (.external "no space left")
      | _ => none) ()).result.queued = [⟨"1@s.whatsapp.net:1:a"⟩] ∧
    ((dispatch trialSettings imageBody).effect (.answering fun _ => none) ()).result.queued =
      [⟨"1@s.whatsapp.net:1:a"⟩, ⟨"2@s.whatsapp.net:2:b"⟩] := by
  decide +kernel

end Delivery

end RoomBridge
