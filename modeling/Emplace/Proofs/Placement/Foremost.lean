import Emplace.Proofs.Placement.Selection

namespace Emplace.Placement

variable {own : Candidate} {peers : List PeerEntry} {c : Leader} {d : PlacementDecision}

def Rivals (own : Candidate) (entry : PeerEntry) : Prop :=
  entry.deviceId ≠ own.deviceId ∧ entry.latestScore.isUsable = true

instance (own : Candidate) (entry : PeerEntry) : Decidable (Rivals own entry) :=
  inferInstanceAs (Decidable (_ ∧ _))

def Unbeaten (own : Candidate) (peers : List PeerEntry) : Prop :=
  isUsable own.score = true ∧ ∀ entry ∈ peers, Rivals own entry → ¬own.score < entry.latestScore.score

theorem select_eq_some_iff : select own peers = some d ↔
    ∃ c, (contenders own peers).argmax (fun c => Score.key c.score) = some c ∧ c.decision = d := by
  rw [select, foldl_challenge_eq_argmax, Option.map_eq_some_iff]

theorem filter_rivals (own : Candidate) (peers : List PeerEntry) :
    peers.filter (Rivals own ·) = peers.filter (competes own.deviceId) := by
  apply List.filter_congr
  intro entry _
  rw [Bool.eq_iff_iff, decide_eq_true_iff, competes_iff, Rivals]

theorem contenders_of_unusable (unusable : ¬isUsable own.score = true) :
    contenders own peers = (peers.filter (Rivals own ·)).map leaderOf := by
  rw [contenders, start, if_neg unusable, Option.toList_none, List.nil_append, filter_rivals]

theorem contenders_of_usable (usable : isUsable own.score = true) :
    contenders own peers =
      ⟨⟨own.deviceId, own.address, true⟩, own.score⟩ :: (peers.filter (Rivals own ·)).map leaderOf := by
  rw [contenders, start, if_pos usable, Option.toList_some, List.singleton_append, filter_rivals]

structure IsForemost (own : Candidate) (peers : List PeerEntry) (front : List PeerEntry) (entry : PeerEntry)
    (back : List PeerEntry) : Prop where
  split : peers = front ++ entry :: back
  rivals : Rivals own entry
  before : ∀ earlier ∈ front, Rivals own earlier → earlier.latestScore.score < entry.latestScore.score
  after : ∀ later ∈ back, Rivals own later → later.latestScore.score ≤ entry.latestScore.score

theorem exists_foremost {ahead behind : List Leader}
    (split : (peers.filter (Rivals own ·)).map leaderOf = ahead ++ c :: behind)
    (before : ∀ a ∈ ahead, Score.key a.score < Score.key c.score)
    (after : ∀ a ∈ behind, Score.key a.score ≤ Score.key c.score) :
    ∃ front entry back, IsForemost own peers front entry back ∧ leaderOf entry = c := by
  obtain ⟨fronts, rest, found, rfl, tail⟩ := List.map_eq_append_iff.1 split
  obtain ⟨entry, backs, rfl, rfl, rfl⟩ := List.map_eq_cons_iff.1 tail
  obtain ⟨front, unseen, rfl, rfl, rest⟩ := List.filter_eq_append_iff.1 found
  obtain ⟨between, back, rfl, others, rivals, rfl⟩ := List.filter_eq_cons_iff.1 rest
  have rivals : Rivals own entry := of_decide_eq_true rivals
  refine ⟨front ++ between, entry, back, ⟨by simp, rivals, ?_, ?_⟩, rfl⟩
  · intro earlier member rival
    rcases List.mem_append.1 member with member | member
    · have less := before (leaderOf earlier) (List.mem_map_of_mem (List.mem_filter.2 ⟨member, decide_eq_true rival⟩))
      exact (Score.lt_iff_key_lt rival.2 rivals.2).2 less
    · exact absurd (decide_eq_true rival) (others earlier member)
  · intro later member rival
    have le := after (leaderOf later) (List.mem_map_of_mem (List.mem_filter.2 ⟨member, decide_eq_true rival⟩))
    exact (Score.le_iff_key_le rival.2 rivals.2).2 le

theorem select_cases (chosen : select own peers = some d) :
    Unbeaten own peers ∧ d = ⟨own.deviceId, own.address, true⟩ ∨
      ¬Unbeaten own peers ∧ ∃ front entry back, IsForemost own peers front entry back ∧
        d = ⟨entry.deviceId, entry.address, false⟩ := by
  obtain ⟨c, best, rfl⟩ := select_eq_some_iff.1 chosen
  obtain ⟨ahead, behind, split, before, after⟩ := exists_split_of_argmax best
  by_cases usable : isUsable own.score = true
  · rw [contenders_of_usable usable] at split
    cases ahead with
    | nil =>
        obtain ⟨rfl, rfl⟩ := List.cons.inj split
        refine .inl ⟨⟨usable, ?_⟩, rfl⟩
        intro entry member rival
        rw [Score.lt_iff_key_lt usable rival.2]
        exact (after (leaderOf entry)
          (List.mem_map_of_mem (List.mem_filter.2 ⟨member, decide_eq_true rival⟩))).not_gt
    | cons a ahead =>
        obtain ⟨rfl, rest⟩ := List.cons.inj split
        obtain ⟨front, entry, back, foremost, rfl⟩ :=
          exists_foremost rest (fun a member => before a (List.mem_cons_of_mem _ member)) after
        have less : Score.key own.score < Score.key entry.latestScore.score :=
          before ⟨⟨own.deviceId, own.address, true⟩, own.score⟩ List.mem_cons_self
        refine .inr ⟨?_, front, entry, back, foremost, rfl⟩
        rintro ⟨-, unbeaten⟩
        have member : entry ∈ peers := by
          rw [foremost.split]
          simp
        exact unbeaten entry member foremost.rivals ((Score.lt_iff_key_lt usable foremost.rivals.2).2 less)
  · rw [contenders_of_unusable usable] at split
    obtain ⟨front, entry, back, foremost, rfl⟩ := exists_foremost split before after
    exact .inr ⟨fun unbeaten => usable unbeaten.1, front, entry, back, foremost, rfl⟩

theorem select_eq_none_iff : select own peers = none ↔
    isUsable own.score = false ∧ ∀ entry ∈ peers, entry.deviceId ≠ own.deviceId → entry.latestScore.isUsable = false := by
  rw [select, foldl_challenge_eq_argmax, Option.map_eq_none_iff, List.argmax_eq_none]
  by_cases usable : isUsable own.score = true
  · simp [contenders_of_usable usable, usable]
  · have empty : contenders own peers = [] ↔ ∀ entry ∈ peers, ¬Rivals own entry := by
      simp only [contenders_of_unusable usable, List.map_eq_nil_iff, List.filter_eq_nil_iff, decide_eq_true_iff]
    rw [empty]
    simp [usable, Rivals]

structure Selects (own : Candidate) (peers : List PeerEntry) : Prop where
  nobody_iff : select own peers = none ↔ isUsable own.score = false ∧ ∀ entry ∈ peers,
    entry.deviceId ≠ own.deviceId → entry.latestScore.isUsable = false
  highest : ∀ d, select own peers = some d → ∃ c, Contends own (Listed peers) c ∧ c.decision = d ∧
    ∀ other, Contends own (Listed peers) other → other.score ≤ c.score
  itself : Unbeaten own peers → select own peers = some ⟨own.deviceId, own.address, true⟩
  foremost : ∀ d, select own peers = some d → ¬Unbeaten own peers →
    ∃ front entry back, IsForemost own peers front entry back ∧ d = ⟨entry.deviceId, entry.address, false⟩
  isLocal_iff : ∀ d, select own peers = some d → (d.isLocal = true ↔ d.targetDeviceId = own.deviceId)
  /-- Nobody else counts: the same rivals in the same order give the same decision. -/
  unmoved : ∀ peers', peers'.filter (Rivals own ·) = peers.filter (Rivals own ·) → select own peers' = select own peers

theorem selects (own : Candidate) (peers : List PeerEntry) : Selects own peers where
  nobody_iff := select_eq_none_iff
  highest d chosen := by
    obtain ⟨c, best, rfl⟩ := select_eq_some_iff.1 chosen
    have contends := mem_contenders_iff.1 (List.argmax_mem best)
    refine ⟨c, contends, rfl, ?_⟩
    intro other rival
    have le := List.le_of_mem_argmax (mem_contenders_iff.2 rival) best
    exact (Score.le_iff_key_le rival.usable contends.usable).2 le
  itself unbeaten := by
    cases chosen : select own peers with
    | none =>
        obtain ⟨unusable, -⟩ := select_eq_none_iff.1 chosen
        rw [unbeaten.1] at unusable
        cases unusable
    | some d =>
        rcases select_cases chosen with ⟨-, rfl⟩ | ⟨beaten, -⟩
        · rfl
        · exact absurd unbeaten beaten
  foremost d chosen beaten := by
    rcases select_cases chosen with ⟨unbeaten, -⟩ | ⟨-, foremost⟩
    · exact absurd unbeaten beaten
    · exact foremost
  isLocal_iff d chosen := by
    rcases select_cases chosen with ⟨-, rfl⟩ | ⟨-, front, entry, back, foremost, rfl⟩
    · simp
    · simp [foremost.rivals.1]
  unmoved peers' same := by
    rw [select, select, foldl_challenge_eq_argmax, foldl_challenge_eq_argmax, contenders, contenders,
      ← filter_rivals, ← filter_rivals, same]

end Emplace.Placement
