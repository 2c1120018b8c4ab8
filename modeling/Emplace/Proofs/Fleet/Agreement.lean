import Emplace.Device.Exchange
import Emplace.Proofs.Device.Placing
import Emplace.Proofs.Device.Publishing

namespace Emplace

open Procedure Placement PeerTable Device

namespace Fleet

structure Member extends Scene where
  publishing : Surroundings interface
  before : List (Asked interface)

namespace Member

def publication (member : Member) : Request Float :=
  (Exchange.publishOnce member.profile.id).through (exchangeStep member.profile)

def published (member : Member) : Float := member.publication.result member.publishing member.before

def Announces (member : Member) (a : Announcement) : Prop :=
  ∃ seed attempt, (⟨Step.call (.announce seed a), attempt⟩ : Asked interface) ∈
    member.publication.transcript member.publishing member.before

theorem of_announces {member : Member} {a : Announcement} (announces : member.Announces a) :
    Describes member.profile member.published a := by
  obtain ⟨seed, attempt, announced⟩ := announces
  have publishes := (publishOnce_publishes member.profile).played member.publishing member.before
  exact publishes.describes announced rfl

end Member

variable {n : Nat} {fleet : Fin n → Member} {s : Fin n → Float} {i j k m : Fin n} {c : Leader} {service : String}

/-- Every device of a fleet scores itself the same when it announces itself and when it places, and the last that every
device heard is what the others announced. -/
structure Settled (fleet : Fin n → Member) (s : Fin n → Float) : Prop where
  distinct : ∀ i j, (fleet i).profile.id = (fleet j).profile.id → i = j
  published : ∀ i, (fleet i).published = s i
  decides : ∀ i, (fleet i).ownScore = s i
  holds : ∀ i j, i ≠ j → ∃ sent heard, (fleet j).Announces sent ∧ Stands (fleet i).history heard ∧
    heard.deviceId = sent.deviceId ∧ heard.address = sent.address ∧ heard.score.score = sent.score.score
  closed : ∀ i a, Stands (fleet i).history a → ∃ j, a.deviceId = (fleet j).profile.id

def Attains (s : Fin n → Float) (m : Fin n) : Prop := 0 < s m ∧ ∀ k, 0 < s k → s k ≤ s m

def leader (fleet : Fin n → Member) (s : Fin n → Float) (i j : Fin n) : Leader :=
  ⟨⟨(fleet j).profile.id, (fleet j).profile.address, decide (i = j)⟩, s j⟩

theorem Settled.isUsable_of_pos (settled : Settled fleet s) (positive : 0 < s j) : isUsable (s j) = true := by
  rw [← settled.decides] at positive ⊢
  exact (pos_score_iff ..).1 positive

theorem Settled.stands (settled : Settled fleet s) (ne : i ≠ j) :
    ∃ a, Stands (fleet i).history a ∧ a.deviceId = (fleet j).profile.id ∧ a.address = (fleet j).profile.address ∧
      a.score.score = s j := by
  obtain ⟨sent, heard, announces, stands, device, address, score⟩ := settled.holds i j ne
  obtain ⟨device', address', score'⟩ := Member.of_announces announces
  exact ⟨heard, stands, device.trans device', address.trans address',
    score.trans (score'.trans (settled.published j))⟩

theorem Settled.candidates_iff (settled : Settled fleet s) :
    (fleet i).Candidates c ↔ ∃ j, 0 < s j ∧ c = leader fleet s i j := by
  constructor
  · intro contends
    cases contends with
    | own usable =>
        have score : (fleet i).ownScore = s i := settled.decides i
        refine ⟨i, score ▸ Score.pos_of_isUsable usable, ?_⟩
        simp [leader, score]
    | @peer a stands other usable =>
        obtain ⟨j, device⟩ := settled.closed i a stands
        have ne : i ≠ j := by
          rintro rfl
          exact other device
        obtain ⟨b, stands', device', address, score⟩ := settled.stands ne
        obtain rfl := stands.unique stands' (device.trans device'.symm)
        refine ⟨j, score ▸ Score.pos_of_isUsable usable, ?_⟩
        simp [leader, ne, device, address, score]
  · rintro ⟨j, positive, rfl⟩
    have usable := settled.isUsable_of_pos positive
    by_cases same : i = j
    · subst same
      have score : (fleet i).ownScore = s i := settled.decides i
      have contends : (fleet i).Candidates ⟨⟨_, _, true⟩, (fleet i).ownScore⟩ := .own (score ▸ usable)
      simpa [leader, score] using contends
    · obtain ⟨a, stands, device, address, score⟩ := settled.stands same
      have other : a.deviceId ≠ (fleet i).profile.id := by
        rw [device]
        exact fun eq => same (settled.distinct i j eq.symm)
      have usable' : a.score.isUsable = true := by rwa [DeviceScore.isUsable, score]
      have contends : (fleet i).Candidates ⟨⟨_, _, false⟩, a.score.score⟩ := .peer stands other usable'
      simpa [leader, same, device, address, score] using contends

def First (fleet : Fin n → Member) (s : Fin n → Float) (m : Fin n) : Prop :=
  Attains s m ∧ ∀ k, Attains s k → (fleet m).profile.id ≤ (fleet k).profile.id

def Chooses (fleet : Fin n → Member) (s : Fin n → Float) (i j : Fin n) : Prop :=
  Attains s j ∧ (Attains s i → i = j) ∧ (i ≠ j → First fleet s j)

theorem Settled.chooses_of_wins (settled : Settled fleet s) (wins : Wins (fleet i).Candidates c) :
    ∃ j, Chooses fleet s i j ∧ c = leader fleet s i j := by
  obtain ⟨j, positive, rfl⟩ := settled.candidates_iff.1 wins.contends
  -- Every device with a positive score contends, so the winner is compared with all of them.
  have among (k : Fin n) (positive : 0 < s k) : (fleet i).Candidates (leader fleet s i k) :=
    settled.candidates_iff.2 ⟨k, positive, rfl⟩
  have attains : Attains s j := ⟨positive, fun k pos => wins.highest (leader fleet s i k) (among k pos)⟩
  refine ⟨j, ⟨attains, fun own => ?_, fun ne => ⟨attains, fun k other => ?_⟩⟩, rfl⟩
  · have here : (leader fleet s i i).decision.isLocal = true := decide_eq_true rfl
    have itself : (leader fleet s i j).decision.isLocal = true :=
      wins.itself (leader fleet s i i) (among i own.1) (own.2 j positive) here
    exact of_decide_eq_true itself
  · have away : (leader fleet s i j).decision.isLocal = false := decide_eq_false ne
    exact wins.first (leader fleet s i k) (among k other.1) (other.2 j positive) away

theorem Settled.decided_cases (settled : Settled fleet s) (i : Fin n) (service : String) :
    (∃ j, Chooses fleet s i j ∧ (fleet i).decided service =
      .ok ⟨(fleet j).profile.id, (fleet j).profile.address, decide (i = j)⟩) ∨
    (∀ k, ¬0 < s k) ∧ (fleet i).decided service = .error (.noEligibleTarget service) := by
  have decides := (fleet i).decides service
  cases outcome : (fleet i).decided service with
  | ok d =>
      rw [outcome] at decides
      cases decides with
      | chosen wins =>
          obtain ⟨j, chooses, rfl⟩ := settled.chooses_of_wins wins
          exact .inl ⟨j, chooses, rfl⟩
  | error e =>
      rw [outcome] at decides
      cases decides with
      | nobody empty => exact .inr ⟨fun k positive => empty _ (settled.candidates_iff.2 ⟨k, positive, rfl⟩), rfl⟩

structure Agreement (fleet : Fin n → Member) (s : Fin n → Float) : Prop where
  sole : ∀ m, Attains s m → (∀ k, Attains s k → k = m) → ∀ i service,
    (fleet i).decided service = .ok ⟨(fleet m).profile.id, (fleet m).profile.address, decide (i = m)⟩
  itself : ∀ i, Attains s i → ∀ service,
    (fleet i).decided service = .ok ⟨(fleet i).profile.id, (fleet i).profile.address, true⟩
  elsewhere : ∀ i, ¬Attains s i → (∃ k, 0 < s k) → ∀ service, ∃ m, First fleet s m ∧
    (fleet i).decided service = .ok ⟨(fleet m).profile.id, (fleet m).profile.address, false⟩
  nobody : (∀ k, ¬0 < s k) → ∀ i service, (fleet i).decided service = .error (.noEligibleTarget service)
  /-- A device that is chosen would not have forwarded the invocation itself. -/
  final : ∀ i service d, (fleet i).decided service = .ok d → ∃ j, d.targetDeviceId = (fleet j).profile.id ∧
    (fleet j).decided service = .ok ⟨(fleet j).profile.id, (fleet j).profile.address, true⟩

theorem Settled.itself (settled : Settled fleet s) (attains : Attains s i) (service : String) :
    (fleet i).decided service = .ok ⟨(fleet i).profile.id, (fleet i).profile.address, true⟩ := by
  obtain ⟨j, ⟨-, itself, -⟩, decided⟩ | ⟨nobody, -⟩ := settled.decided_cases i service
  · obtain rfl := itself attains
    rw [decided, decide_eq_true rfl]
  · exact absurd attains.1 (nobody i)

theorem Settled.agreement (settled : Settled fleet s) : Agreement fleet s where
  sole m attains only i service := by
    obtain ⟨j, ⟨attains', -⟩, decided⟩ | ⟨nobody, -⟩ := settled.decided_cases i service
    · rw [decided, only j attains']
    · exact absurd attains.1 (nobody m)
  itself i attains service := settled.itself attains service
  elsewhere i less positive service := by
    obtain ⟨j, ⟨attains, -, first⟩, decided⟩ | ⟨nobody, -⟩ := settled.decided_cases i service
    · have ne : i ≠ j := by
        rintro rfl
        exact less attains
      exact ⟨j, first ne, by rw [decided, decide_eq_false ne]⟩
    · obtain ⟨k, positive⟩ := positive
      exact absurd positive (nobody k)
  nobody zero i service := by
    obtain ⟨j, ⟨attains, -⟩, -⟩ | ⟨-, decided⟩ := settled.decided_cases i service
    · exact absurd attains.1 (zero j)
    · exact decided
  final i service d decided := by
    obtain ⟨j, ⟨attains, -⟩, decided'⟩ | ⟨-, failed⟩ := settled.decided_cases i service
    · cases decided.symm.trans decided'
      exact ⟨j, rfl, settled.itself attains service⟩
    · cases decided.symm.trans failed

def lopsidedGauge (k : Fin 2) : Except TelemetryError Float := if k = 0 then .ok 1.0 else .error (.unavailable "off")

def lopsidedScore (k : Fin 2) : Float := if k = 0 then Scoring.total ⟨1.0, 1.0, 1.0, 1.0, 1.0⟩ else 0.0

def lopsidedProfile (k : Fin 2) : Profile :=
  if k = 0 then ⟨"a", "a:80", .passThrough, ⟨1⟩, ["b:80"]⟩ else ⟨"b", "b:80", .passThrough, ⟨1⟩, ["a:80"]⟩

def lopsidedAnnouncement (k : Fin 2) : Announcement :=
  ⟨(lopsidedProfile k).id, (lopsidedProfile k).address, ⟨(lopsidedProfile k).id, lopsidedScore k, 0⟩⟩

def lopsided (k : Fin 2) : Member where
  profile := lopsidedProfile k
  calls := [(⟨0, 0⟩, .observe (lopsidedAnnouncement (1 - k)))]
  world := steady (lopsidedGauge k)
  past := []
  publishing := steady (lopsidedGauge k)
  before := []

theorem lopsided_announces (k : Fin 2) : (lopsided k).Announces (lopsidedAnnouncement k) := by
  match k with
  | 0 => exact ⟨"b:80", .silent, List.mem_of_getLast? rfl⟩
  | 1 => exact ⟨"a:80", .silent, List.mem_of_getLast? rfl⟩

theorem agreement_lopsided : Agreement lopsided lopsidedScore := by
  refine Settled.agreement ⟨by decide, ?_, ?_, fun i j ne => ?_, fun i a stands => ?_⟩
  · exact fun | 0 => rfl | 1 => rfl
  · exact fun | 0 => rfl | 1 => rfl
  · refine ⟨lopsidedAnnouncement j, lopsidedAnnouncement j, lopsided_announces j, ?_, rfl, rfl, rfl⟩
    match i, j with
    | 0, 1 => rfl
    | 1, 0 => rfl
    | 0, 0 => contradiction
    | 1, 1 => contradiction
  · have stands : Stands (PeerTable.history _ ([] ++ (lopsided i).calls)) a := stands
    rcases stands_append stands with stood | ⟨now, observed⟩
    · cases stood
    · cases List.mem_singleton.1 observed
      exact ⟨1 - i, rfl⟩

end Fleet

end Emplace
