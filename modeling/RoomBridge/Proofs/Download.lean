import Mathlib.Logic.Relation
import RoomBridge.CloudClient

/-!
# Downloads within a limit

The body of a download is collected chunk by chunk, and a chunk is only taken if what is held then
stays within the limit. What the loop comes to is what it comes to from every point that it passes,
so its invariant says all about it: what is held is the chunks taken so far, and never too much.

* `Reading.Step`, `Reading.Reaches` : one turn of the loop, and any number of them;
* `Reading.Reaches.keeps` : what holds at every point of it;
* `Reading.reaches_end`, `collect_cases` : where it stops, and what it comes to;
* `downloadMedia_capped` : what a download comes to, however its body is cut.
-/

namespace RoomBridge

open Relation (ReflTransGen)

/-! ## The loop -/

/-- The item that comes after the first `n`. -/
theorem take_succ_of_drop {α : Type} {l rest : List α} {n : Nat} {a : α}
    (h : l.drop n = a :: rest) : l.take (n + 1) = l.take n ++ [a] ∧ l.drop (n + 1) = rest := by
  constructor
  · rw [List.take_add, h, List.take_succ_cons, List.take_zero]
  · rw [← List.drop_drop, h, List.drop_succ_cons, List.drop_zero]

namespace CloudClient

/-- A point of the loop: what is held, and the chunks that are still to come. -/
structure Reading where
  held : Bytes
  coming : List Bytes

namespace Reading

/-- What the loop comes to from here. -/
def outcome (limit : Nat) (p : Reading) : Except Failure Bytes := collect limit p.held p.coming

/-- One turn of the loop: a chunk is taken that does not lead beyond the limit. -/
inductive Step (limit : Nat) : Reading → Reading → Prop
  | take (held chunk : Bytes) (coming : List Bytes) : held.length + chunk.length ≤ limit →
    Step limit ⟨held, chunk :: coming⟩ ⟨held ++ chunk, coming⟩

/-- Any number of turns. -/
abbrev Reaches (limit : Nat) : Reading → Reading → Prop := ReflTransGen (Step limit)

/-- The point after `n` chunks. -/
def after (n : Nat) (p : Reading) : Reading :=
  ⟨p.held ++ (p.coming.take n).flatten, p.coming.drop n⟩

variable {limit : Nat} {p q : Reading}

theorem after_zero (p : Reading) : p.after 0 = p := by simp [after]

theorem after_step {n : Nat} (h : Step limit (p.after n) q) : q = p.after (n + 1) := by
  generalize hpoint : p.after n = point at h
  cases h with
  | take held chunk coming _ =>
    simp only [after, mk.injEq] at hpoint
    obtain ⟨rfl, hcoming⟩ := hpoint
    obtain ⟨htake, hdrop⟩ := take_succ_of_drop hcoming
    rw [after, htake, hdrop, List.flatten_append, List.flatten_singleton, List.append_assoc]

/-- A turn of the loop stays within the limit, and changes nothing about what the loop comes to. -/
theorem Step.keeps (h : Step limit p q) :
    q.held.length ≤ limit ∧ q.outcome limit = p.outcome limit := by
  cases h with
  | take held chunk coming hsize =>
    refine ⟨?_, ?_⟩
    · rw [List.length_append]
      exact hsize
    · have hfits : ¬ limit < held.length + chunk.length := by omega
      simp only [outcome, collect, if_neg hfits]

/-- At every point of the loop some chunks have been taken, all they hold is held, it is within the
limit, and the loop comes to the same from there. -/
theorem Reaches.keeps (h : Reaches limit p q) (hstart : p.held.length ≤ limit) :
    (∃ n, q = p.after n) ∧ q.held.length ≤ limit ∧ q.outcome limit = p.outcome limit := by
  induction h with
  | refl => exact ⟨⟨0, p.after_zero.symm⟩, hstart, rfl⟩
  | tail _ hstep ih =>
    obtain ⟨⟨n, rfl⟩, -, houtcome⟩ := ih
    obtain ⟨hsize, hnext⟩ := hstep.keeps
    exact ⟨⟨n + 1, after_step hstep⟩, hsize, hnext.trans houtcome⟩

/-- The loop stops at a point that it reaches: after the last chunk, or before one too many. -/
theorem reaches_end (limit : Nat) (p : Reading) :
    ∃ q, Reaches limit p q ∧
      ((q.coming = [] ∧ p.outcome limit = .ok q.held) ∨
        ∃ chunk coming, q.coming = chunk :: coming ∧ limit < q.held.length + chunk.length ∧
          p.outcome limit = .error (.mediaTooLarge (q.held.length + chunk.length) limit)) := by
  obtain ⟨held, coming⟩ := p
  induction coming generalizing held with
  | nil => exact ⟨⟨held, []⟩, .refl, Or.inl ⟨rfl, rfl⟩⟩
  | cons chunk coming ih =>
    by_cases hsize : limit < held.length + chunk.length
    · refine ⟨⟨held, chunk :: coming⟩, .refl, Or.inr ⟨chunk, coming, rfl, hsize, ?_⟩⟩
      simp only [outcome, collect, if_pos hsize]
    · have hstep : Step limit ⟨held, chunk :: coming⟩ ⟨held ++ chunk, coming⟩ :=
        .take held chunk coming (by omega)
      obtain ⟨q, hreach, hend⟩ := ih (held ++ chunk)
      rw [hstep.keeps.2] at hend
      exact ⟨q, .head hstep hreach, hend⟩

end Reading

end CloudClient

/-! ## Bodies and limits -/

/-- What the first `n` chunks of a body hold, in bytes. -/
def Http.Response.arrived (r : Http.Response) (n : Nat) : Nat := (r.chunks.take n).flatten.length

/-- Neither the declared length of a body nor its length exceeds the limit. -/
def Http.Response.Fits (limit : Nat) (r : Http.Response) : Prop :=
  (∀ size ∈ r.contentLength, size ≤ limit) ∧ r.chunks.flatten.length ≤ limit

/-- The size by which a body exceeds the limit: its declared length, or else that of the fewest
chunks that are too long together. -/
inductive Http.Response.Exceeds (limit : Nat) (r : Http.Response) : Nat → Prop
  | declared (size : Nat) : r.contentLength = some size → limit < size → Exceeds limit r size
  | arrived (n : Nat) : (∀ size ∈ r.contentLength, size ≤ limit) → limit < r.arrived n →
    (∀ m < n, r.arrived m ≤ limit) → Exceeds limit r (r.arrived n)

namespace Http.Response

variable {limit size : Nat} {r : Http.Response}

theorem Exceeds.lt (h : r.Exceeds limit size) : limit < size := by
  cases h with
  | declared _ _ hlt => exact hlt
  | arrived _ _ hlt _ => exact hlt

theorem arrived_mono (r : Http.Response) {m n : Nat} (h : m ≤ n) : r.arrived m ≤ r.arrived n := by
  have hsplit := List.take_append_drop m (r.chunks.take n)
  rw [List.take_take, Nat.min_eq_left h] at hsplit
  unfold arrived
  rw [← hsplit, List.flatten_append, List.length_append]
  omega

theorem arrived_le (r : Http.Response) (n : Nat) : r.arrived n ≤ r.chunks.flatten.length := by
  have hall : r.arrived (n + r.chunks.length) = r.chunks.flatten.length := by
    rw [arrived, List.take_of_length_le (by omega)]
  exact hall ▸ r.arrived_mono (by omega)

end Http.Response

namespace CloudClient

variable {r : Http.Response}

/-- What a body without a declared length above the limit comes to. -/
theorem collect_cases (limit : Nat) (r : Http.Response) :
    (collect limit [] r.chunks = .ok r.chunks.flatten ∧ r.chunks.flatten.length ≤ limit) ∨
      ∃ n, limit < r.arrived n ∧ (∀ m < n, r.arrived m ≤ limit) ∧
        collect limit [] r.chunks = .error (.mediaTooLarge (r.arrived n) limit) := by
  obtain ⟨q, hreach, hend⟩ := Reading.reaches_end limit ⟨[], r.chunks⟩
  obtain ⟨⟨n, rfl⟩, hsize, -⟩ := hreach.keeps (Nat.zero_le limit)
  have hheld : (Reading.after n ⟨[], r.chunks⟩).held = (r.chunks.take n).flatten := rfl
  have hcoming : (Reading.after n ⟨[], r.chunks⟩).coming = r.chunks.drop n := rfl
  rw [hheld] at hsize hend
  rw [hcoming] at hend
  obtain ⟨hdone, houtcome⟩ | ⟨chunk, coming, hnext, hlarge, houtcome⟩ := hend
  · have hall : r.chunks.take n = r.chunks :=
      List.take_of_length_le (List.drop_eq_nil_iff.mp hdone)
    rw [hall] at hsize houtcome
    exact Or.inl ⟨houtcome, hsize⟩
  · -- The chunk that is too many is the next after the first `n`.
    have harrived : r.arrived (n + 1) = (r.chunks.take n).flatten.length + chunk.length := by
      rw [Http.Response.arrived, (take_succ_of_drop hnext).1, List.flatten_append,
        List.flatten_singleton, List.length_append]
    rw [← harrived] at hlarge houtcome
    refine Or.inr ⟨n + 1, hlarge, ?_, houtcome⟩
    intro m hm
    exact Nat.le_trans (r.arrived_mono (Nat.le_of_lt_succ hm)) hsize

/-- What is read of a body that arrives: all of it if it fits, or by how much it does not. -/
theorem readContent_cases (limit : Nat) (hwhole : r.isBroken = false) :
    (r.Fits limit ∧ readContent limit r = .ok r.chunks.flatten) ∨
      ∃ size, r.Exceeds limit size ∧ ¬ r.Fits limit ∧
        readContent limit r = .error (.mediaTooLarge size limit) := by
  unfold readContent
  cases hlength : r.contentLength.filter (limit < ·) with
  | some size =>
    rw [Option.filter_eq_some_iff, decide_eq_true_eq] at hlength
    obtain ⟨hsize, hlarge⟩ := hlength
    refine Or.inr ⟨size, .declared size hsize hlarge, ?_, rfl⟩
    intro hfits
    have hle := hfits.1 size hsize
    omega
  | none =>
    have hdeclared : ∀ size ∈ r.contentLength, size ≤ limit := by
      intro size hsize
      have hnot := Option.filter_eq_none_iff.mp hlength size hsize
      simpa using hnot
    dsimp only
    obtain ⟨hcollect, hfits⟩ | ⟨n, hlarge, hleast, hcollect⟩ := collect_cases limit r
    · rw [hcollect, hwhole]
      exact Or.inl ⟨⟨hdeclared, hfits⟩, rfl⟩
    · rw [hcollect]
      refine Or.inr ⟨r.arrived n, .arrived n hdeclared hlarge hleast, ?_, rfl⟩
      intro hfits
      have hle := Nat.le_trans (r.arrived_le n) hfits.2
      omega

/-! ## Downloads -/

theorem downloadMedia_result (client : CloudClient) (peer : Http.Peer) {session : Session}
    {url : String} {request : Http.Request} (hrequest : downloadRequest session url = some request)
    (hresponse : peer request = some r) (hsuccess : r.isSuccess = true) :
    (client.downloadMedia peer session url).result = readContent client.maxDownload r := by
  simp only [downloadMedia, hrequest, Option.bind_some, hresponse, readDownload, if_pos hsuccess]

/-- **A download within the limit.** If a request is granted and the body arrives, it is what the
chunks hold, one after the other, just if neither its declared length nor its length exceeds the
limit. Otherwise the download fails as too large, by the declared length if that is too large already
and else by the fewest chunks that are. At no point of the loop is more held than the limit, and how
the body is cut into chunks decides neither about the success nor about the content. -/
theorem downloadMedia_capped (client : CloudClient) (peer : Http.Peer) {session : Session}
    {url : String} {request : Http.Request} {response : Http.Response}
    (hrequest : downloadRequest session url = some request)
    (hresponse : peer request = some response) (hsuccess : response.isSuccess = true)
    (hwhole : response.isBroken = false) :
    let result := (client.downloadMedia peer session url).result
    let limit := client.maxDownload
    (∀ content, result = .ok content ↔
      response.Fits limit ∧ content = response.chunks.flatten) ∧
    (¬ response.Fits limit → ∃ size, response.Exceeds limit size ∧ limit < size ∧
      result = .error (.mediaTooLarge size limit)) ∧
    (∀ p, Reading.Reaches limit ⟨[], response.chunks⟩ p → p.held.length ≤ limit ∧
      p.outcome limit = collect limit [] response.chunks) ∧
    ∀ other : Http.Response, other.isSuccess = true → other.isBroken = false →
      other.contentLength = response.contentLength →
      other.chunks.flatten = response.chunks.flatten →
      (client.downloadMedia (fun _ => some other) session url).result.toOption =
        result.toOption := by
  intro result limit
  have hresult : result = readContent limit response :=
    client.downloadMedia_result peer hrequest hresponse hsuccess
  have hcases := readContent_cases limit hwhole
  refine ⟨?_, ?_, ?_, ?_⟩
  · intro content
    rw [hresult]
    obtain ⟨hfits, hread⟩ | ⟨size, -, hnot, hread⟩ := hcases
    · rw [hread, Except.ok.injEq]
      exact ⟨fun h => ⟨hfits, h.symm⟩, fun h => h.2.symm⟩
    · rw [hread]
      exact ⟨nofun, fun h => absurd h.1 hnot⟩
  · intro hnot
    obtain ⟨hfits, -⟩ | ⟨size, hexceeds, -, hread⟩ := hcases
    · exact absurd hfits hnot
    · exact ⟨size, hexceeds, hexceeds.lt, hresult.trans hread⟩
  · intro p hreach
    obtain ⟨-, hsize, houtcome⟩ := hreach.keeps (Nat.zero_le limit)
    exact ⟨hsize, houtcome⟩
  · intro other hsuccess' hwhole' hlength hbody
    have hfits_iff : other.Fits limit ↔ response.Fits limit := by
      simp only [Http.Response.Fits, hlength, hbody]
    have hresult' : (client.downloadMedia (fun _ => some other) session url).result =
        readContent limit other :=
      client.downloadMedia_result (fun _ => some other) hrequest rfl hsuccess'
    rw [hresult, hresult']
    obtain ⟨hfits', hread'⟩ | ⟨_, -, hnot', hread'⟩ := readContent_cases limit hwhole'
    · obtain ⟨-, hread⟩ | ⟨_, -, hnot, -⟩ := hcases
      · rw [hread, hread', hbody]
      · exact absurd (hfits_iff.mp hfits') hnot
    · obtain ⟨hfits, -⟩ | ⟨_, -, -, hread⟩ := hcases
      · exact absurd (hfits_iff.mpr hfits) hnot'
      · rw [hread, hread']
        rfl

/-- A client that takes four bytes at most, and an account that downloads with it. -/
def fourByteClient : CloudClient := ⟨"https://cloud", "v1", 4⟩

def downloader : Session := ⟨"W1", "P1", "token", "App", "@agent", none⟩

/-- A body in chunks, of no declared length. -/
def chunked (chunks : List Bytes) : Http.Response := ⟨200, none, chunks, false⟩

/-- Four bytes are taken, however they are cut; the chunk with a fifth is refused, and with it all. -/
theorem downloadMedia_capped_fifth :
    let download chunks :=
      (fourByteClient.downloadMedia (fun _ => some (chunked chunks)) downloader "https://cdn/A").result
    ((downloadRequest downloader "https://cdn/A").isSome = true ∧
      (chunked [[1, 2], [], [3, 4]]).isSuccess = true ∧
      (chunked [[1, 2], [], [3, 4]]).isBroken = false) ∧
    download [[1, 2], [], [3, 4]] = .ok [1, 2, 3, 4] ∧
    (download [[1], [2, 3, 4]]).toOption = some [1, 2, 3, 4] ∧
    download [[1, 2], [], [3, 4], [5]] = .error (.mediaTooLarge 5 4) := by
  intro download
  have hsent : (downloadRequest downloader "https://cdn/A").isSome = true := by decide +kernel
  obtain ⟨request, hrequest⟩ := Option.isSome_iff_exists.mp hsent
  obtain ⟨hok, -, -, hcut⟩ := downloadMedia_capped fourByteClient
    (fun _ => some (chunked [[1, 2], [], [3, 4]])) hrequest rfl rfl rfl
  obtain ⟨-, hrefused, -, -⟩ := downloadMedia_capped fourByteClient
    (fun _ => some (chunked [[1, 2], [], [3, 4], [5]])) hrequest rfl rfl rfl
  have hfour : download [[1, 2], [], [3, 4]] = .ok [1, 2, 3, 4] :=
    (hok _).mpr ⟨⟨nofun, by decide⟩, rfl⟩
  have hagain : (download [[1], [2, 3, 4]]).toOption = some [1, 2, 3, 4] := by
    rw [hcut (chunked [[1], [2, 3, 4]]) rfl rfl rfl rfl]
    exact congrArg Except.toOption hfour
  have hlarge : ¬ (chunked [[1, 2], [], [3, 4], [5]]).Fits 4 := fun h => absurd h.2 (by decide)
  obtain ⟨size, hexceeds, hlt, hfive⟩ := hrefused hlarge
  have hsize : size = 5 := by
    cases hexceeds with
    | declared _ hnone => cases hnone
    | arrived n =>
      have hle := (chunked [[1, 2], [], [3, 4], [5]]).arrived_le n
      exact Nat.le_antisymm hle hlt
  exact ⟨⟨hsent, rfl, rfl⟩, hfour, hagain, hsize ▸ hfive⟩

end CloudClient

end RoomBridge
