import Emplace.Http.Router
import Mathlib.Logic.Basic

namespace Emplace

theorem Text.stripStart?_eq_some_iff {α : Type} [BEq α] [LawfulBEq α] {head xs rest : List α} :
    stripStart? head xs = some rest ↔ xs = head ++ rest := by
  induction head generalizing xs with
  | nil => simp [stripStart?, eq_comm]
  | cons h hs ih =>
      cases xs with
      | nil => simp [stripStart?]
      | cons x xs =>
          by_cases same : h = x
          · simp [stripStart?, same, ih]
          · simp [stripStart?, same, Ne.symm same]

namespace Http

theorem Ip.splitOn_eq (separator : Char) (cs : List Char) : Ip.splitOn separator cs = cs.splitOn separator := by
  induction cs with
  | nil => rfl
  | cons c cs ih =>
      have rest : cs.foldr _ [[]] = cs.splitOn separator := ih
      rw [Ip.splitOn, List.foldr_cons, rest, List.splitOn_cons_eq_if_modifyHead]
      by_cases same : c = separator
      · simp [same]
      · cases parts : cs.splitOn separator with
        | nil => exact (List.splitOn_ne_nil separator cs parts).elim
        | cons part rest => simp [same]

theorem segments?_eq_some_iff {path : List Char} {segments : List (List Char)} :
    segments? path = some segments ↔ ∃ rest, path = "/api/v1/".toList ++ rest ∧ rest.splitOn '/' = segments := by
  simp only [segments?, Option.map_eq_some_iff, Text.stripStart?_eq_some_iff, Ip.splitOn_eq]

theorem path_of_segments? {path : List Char} {segments : List (List Char)} (found : segments? path = some segments) :
    path = "/api/v1/".toList ++ ['/'].intercalate segments := by
  obtain ⟨rest, rfl, rfl⟩ := segments?_eq_some_iff.1 found
  rw [List.intercalate_splitOn]

theorem segments?_of_path {segments : List (List Char)} (clear : ∀ segment ∈ segments, '/' ∉ segment)
    (nonempty : segments ≠ []) : segments? ("/api/v1/".toList ++ ['/'].intercalate segments) = some segments :=
  segments?_eq_some_iff.2 ⟨_, rfl, List.splitOn_intercalate '/' clear nonempty⟩

def announcePath : List Char := "/api/v1/peers/announce".toList

def invokePath (service : List Char) : List Char := "/api/v1/services/".toList ++ service ++ "/invoke".toList

theorem route?_invokePath {service : List Char} (clear : '/' ∉ service) :
    route? (invokePath service) = some (.invoke service) := by
  have front : '/' ∉ "services".toList := by decide
  have back : '/' ∉ "invoke".toList := by decide
  have each : ∀ segment ∈ ["services".toList, service, "invoke".toList], '/' ∉ segment := by
    simp only [List.forall_mem_cons]
    exact ⟨front, clear, back, fun _ member => absurd member List.not_mem_nil⟩
  have path : invokePath service =
      "/api/v1/".toList ++ ['/'].intercalate ["services".toList, service, "invoke".toList] := by
    have joined : ['/'].intercalate ["services".toList, service, "invoke".toList] =
        "services".toList ++ (['/'] ++ (service ++ (['/'] ++ "invoke".toList))) := by
      simp only [List.intercalate, List.intersperse, List.flatten_cons, List.flatten_nil, List.append_nil]
    have start : "/api/v1/services/".toList = "/api/v1/".toList ++ ("services".toList ++ ['/']) := by decide
    have last : "/invoke".toList = ['/'] ++ "invoke".toList := by decide
    have whole := congrArg₂ (fun a b => a ++ service ++ b) start last
    simp only [List.append_assoc] at whole
    rw [joined]
    exact whole
  have found : segments? (invokePath service) = some ["services".toList, service, "invoke".toList] := by
    rw [path]
    exact segments?_of_path each (List.cons_ne_nil _ _)
  simp [route?, found]

theorem route?_eq_announce_iff {path : List Char} : route? path = some .announce ↔ path = announcePath := by
  constructor
  · intro found
    unfold route? at found
    split at found
    case h_4 => split at found <;> cases found
    case h_6 segments read =>
      obtain ⟨all, inside, split⟩ := Option.map_eq_some_iff.1 read
      obtain ⟨names, -⟩ := Prod.mk.inj split
      have segments : all = ["peers".toList, "announce".toList] := by
        have texts := congrArg (List.map String.toList) names
        simpa using texts
      rw [path_of_segments? inside, segments]
      decide
    all_goals cases found
  · rintro rfl
    rfl

/-- The callers that are on the host itself: 127.0.0.0/8 by itself or mapped into the newer version, and ::1. -/
inductive Loopback : Ip → Prop
  | v4 (b c d : UInt8) : Loopback (.v4 127 b c d)
  | v6 {groups : Vector UInt16 8} (one : groups.toList = [0, 0, 0, 0, 0, 0, 0, 1]) : Loopback (.v6 groups)
  | mapped {groups : Vector UInt16 8} {high low : UInt16} (mapping : groups.toList = [0, 0, 0, 0, 0, 0xFFFF, high, low])
    (first : high.toNat / 256 = 127) : Loopback (.v6 groups)

theorem highByte_eq_iff (high : UInt16) : (high >>> 8).toUInt8 = 127 ↔ high.toNat / 256 = 127 := by
  have small : high.toNat < 65536 := high.toNat_lt
  rw [← UInt8.toNat_inj]
  have shifted : (high >>> 8).toUInt8.toNat = high.toNat / 256 := by
    simp [UInt16.toNat_shiftRight, Nat.shiftRight_eq_div_pow]
    omega
  rw [shifted]
  rfl

theorem isLocal_iff (ip : Ip) : ip.isLocal = true ↔ Loopback ip := by
  cases ip with
  | v4 a b c d =>
      constructor
      · intro here
        obtain rfl : a = 127 := by simpa [Ip.isLocal, Ip.canonical, Ip.isLoopback] using here
        exact .v4 b c d
      · rintro ⟨⟩
        rfl
  | v6 groups =>
      simp only [Ip.isLocal, Ip.canonical]
      split
      · rename_i high low mapping
        constructor
        · intro here
          exact .mapped mapping ((highByte_eq_iff high).1 (by simpa [Ip.isLoopback] using here))
        · intro loopback
          cases loopback with
          | v6 one => simp [mapping] at one
          | mapped same first =>
              cases mapping.symm.trans same
              simpa [Ip.isLoopback] using (highByte_eq_iff _).2 first
      · rename_i plain
        constructor
        · intro here
          exact .v6 (by simpa [Ip.isLoopback] using here)
        · intro loopback
          cases loopback with
          | v6 one => simp [Ip.isLoopback, one]
          | mapped mapping first => exact (plain _ _ mapping).elim

example : Loopback (.v6 ⟨#[0, 0, 0, 0, 0, 0xFFFF, 0x7F00, 1], rfl⟩) := .mapped rfl rfl

end Http

end Emplace
