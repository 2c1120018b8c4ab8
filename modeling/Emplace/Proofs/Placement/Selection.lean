import Mathlib
import Emplace.Failure
import Emplace.Placement
import Emplace.Proofs.Peers.History
import Emplace.Proofs.Scoring.Order

namespace Emplace.Placement

inductive Contends (own : Candidate) (known : Announcement → Prop) : Leader → Prop
  | own (usable : isUsable own.score = true) : Contends own known ⟨⟨own.deviceId, own.address, true⟩, own.score⟩
  | peer {a : Announcement} (announced : known a) (other : a.deviceId ≠ own.deviceId)
    (usable : a.score.isUsable = true) : Contends own known ⟨⟨a.deviceId, a.address, false⟩, a.score.score⟩

structure Wins (among : Leader → Prop) (c : Leader) : Prop where
  contends : among c
  highest : ∀ other, among other → other.score ≤ c.score
  itself : ∀ other, among other → c.score ≤ other.score → other.decision.isLocal = true → c.decision.isLocal = true
  first : ∀ other, among other → c.score ≤ other.score → c.decision.isLocal = false →
    c.decision.targetDeviceId ≤ other.decision.targetDeviceId

variable {own : Candidate} {known : Announcement → Prop} {c c' : Leader} {peers : List PeerEntry}

theorem Contends.usable (contends : Contends own known c) : isUsable c.score = true := by
  cases contends with
  | own usable => exact usable
  | peer _ _ usable => exact usable

def Single (known : Announcement → Prop) : Prop := ∀ a b, known a → known b → a.deviceId = b.deviceId → a = b

theorem Wins.unique (single : Single known) (wins : Wins (Contends own known) c)
    (wins' : Wins (Contends own known) c') : c = c' := by
  have le := wins.highest c' wins'.contends
  have ge := wins'.highest c wins.contends
  have sameSide : c.decision.isLocal = true ↔ c'.decision.isLocal = true :=
    ⟨wins'.itself c wins.contends le, wins.itself c' wins'.contends ge⟩
  have sameId : c.decision.isLocal = false → c'.decision.isLocal = false →
      c.decision.targetDeviceId = c'.decision.targetDeviceId := fun away away' =>
    String.le_antisymm (wins.first c' wins'.contends ge away) (wins'.first c wins.contends le away')
  cases wins.contends with
  | own usable =>
      cases wins'.contends with
      | own => rfl
      | peer => cases sameSide.1 rfl
  | peer announced other usable =>
      cases wins'.contends with
      | own => cases sameSide.2 rfl
      | peer announced' => rw [single _ _ announced announced' (sameId rfl rfl)]

def Listed (peers : List PeerEntry) (a : Announcement) : Prop := ∃ entry ∈ peers, entry.announced = a

theorem competes_iff {localId : String} {entry : PeerEntry} :
    competes localId entry = true ↔ entry.deviceId ≠ localId ∧ entry.latestScore.isUsable = true := by
  simp [competes]

def leaderOf (entry : PeerEntry) : Leader := ⟨⟨entry.deviceId, entry.address, false⟩, entry.latestScore.score⟩

def contenders (own : Candidate) (peers : List PeerEntry) : List Leader :=
  (start own).toList ++ (peers.filter (competes own.deviceId)).map leaderOf

theorem mem_start_iff : c ∈ (start own).toList ↔
    isUsable own.score = true ∧ c = ⟨⟨own.deviceId, own.address, true⟩, own.score⟩ := by
  rw [start, Option.mem_toList, Option.ite_none_right_eq_some, Option.some.injEq, eq_comm (a := c)]

theorem mem_contenders_iff : c ∈ contenders own peers ↔ Contends own (Listed peers) c := by
  simp only [contenders, List.mem_append, mem_start_iff, List.mem_map, List.mem_filter, competes_iff]
  constructor
  · rintro (⟨usable, rfl⟩ | ⟨entry, ⟨member, other, usable⟩, rfl⟩)
    · exact .own usable
    · exact .peer (a := entry.announced) ⟨entry, member, rfl⟩ other usable
  · intro contends
    cases contends with
    | own usable => exact .inl ⟨usable, rfl⟩
    | peer announced other usable =>
        obtain ⟨entry, member, rfl⟩ := announced
        exact .inr ⟨entry, ⟨member, other, usable⟩, rfl⟩

theorem contenders_append (own : Candidate) (peers : List PeerEntry) (entry : PeerEntry) :
    contenders own (peers ++ [entry]) =
      contenders own peers ++ if competes own.deviceId entry = true then [leaderOf entry] else [] := by
  cases enters : competes own.deviceId entry <;> simp [contenders, enters]

theorem foldl_challenge_eq_argmax (own : Candidate) (peers : List PeerEntry) :
    peers.foldl (challenge own.deviceId) (start own) = (contenders own peers).argmax fun c => Score.key c.score := by
  induction peers using List.reverseRecOn with
  | nil => cases first : start own <;> simp [contenders, first]
  | append_singleton peers entry ih =>
      rw [List.foldl_append, List.foldl_cons, List.foldl_nil, ih, contenders_append]
      by_cases enters : competes own.deviceId entry = true
      · rw [if_pos enters, List.argmax_concat]
        cases best : (contenders own peers).argmax fun c => Score.key c.score with
        | none => simp [challenge, enters, beats, leaderOf]
        | some c =>
            have usable := (mem_contenders_iff.1 (List.argmax_mem best)).usable
            have key := Score.lt_iff_key_lt usable (competes_iff.1 enters).2
            by_cases ahead : c.score < entry.latestScore.score
            · simp [challenge, enters, beats, leaderOf, ahead, key.1 ahead]
            · simp [challenge, enters, beats, leaderOf, ahead, mt key.2 ahead]
      · rw [if_neg enters, List.append_nil]
        simp [challenge, enters]

theorem exists_split_of_argmax {α β : Type} [LinearOrder β] {f : α → β} {l : List α} {m : α}
    (best : l.argmax f = some m) :
    ∃ front back, l = front ++ m :: back ∧ (∀ a ∈ front, f a < f m) ∧ ∀ a ∈ back, f a ≤ f m := by
  induction l using List.reverseRecOn generalizing m with
  | nil => cases best
  | append_singleton l x ih =>
      rw [List.argmax_concat] at best
      cases earlier : l.argmax f with
      | none =>
          obtain rfl := List.argmax_eq_none.1 earlier
          obtain rfl : x = m := by simpa [earlier] using best
          exact ⟨[], [], rfl, by simp, by simp⟩
      | some c =>
          simp only [earlier] at best
          split at best
          · rename_i ahead
            obtain rfl := Option.some.inj best
            exact ⟨l, [], rfl, fun a member => (List.le_of_mem_argmax member earlier).trans_lt ahead, by simp⟩
          · rename_i level
            obtain rfl := Option.some.inj best
            obtain ⟨front, back, rfl, before, after⟩ := ih earlier
            refine ⟨front, back ++ [x], by simp, before, ?_⟩
            simp only [List.mem_append, List.mem_singleton]
            rintro a (member | rfl)
            · exact after a member
            · exact not_lt.1 level

theorem pairwise_contenders (own : Candidate) (ascending : peers.Pairwise fun a b => a.deviceId < b.deviceId) :
    (contenders own peers).Pairwise fun a b => b.decision.isLocal = false ∧
      (a.decision.isLocal = false → a.decision.targetDeviceId < b.decision.targetDeviceId) := by
  refine List.pairwise_append.2 ⟨?_, ?_, ?_⟩
  · cases start own <;> simp
  · exact List.pairwise_map.2 ((ascending.filter _).imp fun less => ⟨rfl, fun _ => less⟩)
  · intro a first b later
    obtain ⟨-, rfl⟩ := mem_start_iff.1 first
    obtain ⟨entry, -, rfl⟩ := List.mem_map.1 later
    exact ⟨rfl, fun away => nomatch away⟩

theorem wins_of_argmax (ascending : peers.Pairwise fun a b => a.deviceId < b.deviceId)
    (best : (contenders own peers).argmax (fun c => Score.key c.score) = some c) :
    Wins (Contends own (Listed peers)) c := by
  have contends := mem_contenders_iff.1 (List.argmax_mem best)
  obtain ⟨front, back, split, before, -⟩ := exists_split_of_argmax best
  have ordered := pairwise_contenders own ascending
  rw [split] at ordered
  obtain ⟨-, ordered, -⟩ := List.pairwise_append.1 ordered
  have after := (List.pairwise_cons.1 ordered).1
  -- Who has as high a score as the winner is the winner or comes after it.
  have tied : ∀ other, Contends own (Listed peers) other → c.score ≤ other.score → other = c ∨ other ∈ back := by
    intro other rival ge
    have member := mem_contenders_iff.2 rival
    rw [split] at member
    rcases List.mem_append.1 member with earlier | rest
    · have le := (Score.le_iff_key_le contends.usable rival.usable).1 ge
      exact absurd (before other earlier) le.not_gt
    · exact List.mem_cons.1 rest
  constructor
  case contends => exact contends
  case highest =>
    intro other rival
    have le := List.le_of_mem_argmax (mem_contenders_iff.2 rival) best
    exact (Score.le_iff_key_le rival.usable contends.usable).2 le
  case itself =>
    intro other rival ge itself
    rcases tied other rival ge with rfl | later
    · exact itself
    · rw [(after other later).1] at itself
      cases itself
  case first =>
    intro other rival ge away
    rcases tied other rival ge with rfl | later
    · exact String.le_refl _
    · exact String.not_lt.1 (String.lt_asymm ((after other later).2 away))

inductive Decides (among : Leader → Prop) (service : String) : Except Failure PlacementDecision → Prop
  | chosen {c : Leader} (wins : Wins among c) : Decides among service (.ok c.decision)
  | nobody (empty : ∀ c, ¬among c) : Decides among service (.error (.noEligibleTarget service))

def placed (service : String) : Option PlacementDecision → Except Failure PlacementDecision
  | some decision => .ok decision
  | none => .error (.noEligibleTarget service)

variable {service : String} {outcome outcome' : Except Failure PlacementDecision}

theorem Decides.unique (single : Single known) (decides : Decides (Contends own known) service outcome)
    (decides' : Decides (Contends own known) service outcome') : outcome = outcome' := by
  cases decides with
  | chosen wins =>
      cases decides' with
      | chosen wins' => rw [wins.unique single wins']
      | nobody empty => exact absurd wins.contends (empty _)
  | nobody empty =>
      cases decides' with
      | chosen wins => exact absurd wins.contends (empty _)
      | nobody => rfl

theorem placed_select (own : Candidate) (service : String)
    (ascending : peers.Pairwise fun a b => a.deviceId < b.deviceId) :
    Decides (Contends own (Listed peers)) service (placed service (select own peers)) := by
  rw [select, foldl_challenge_eq_argmax]
  cases best : (contenders own peers).argmax fun c => Score.key c.score with
  | none =>
      have empty := List.argmax_eq_none.1 best
      exact .nobody fun c contends => by simpa [empty] using mem_contenders_iff.2 contends
  | some c => exact .chosen (wins_of_argmax ascending best)

end Emplace.Placement
