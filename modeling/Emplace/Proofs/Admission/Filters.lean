import Emplace.Proofs.Admission.Checks
import Emplace.Proofs.Device.Reloading

namespace Emplace.Admission

open Procedure

structure IsNameOf (name executable : String) : Prop where
  ends : name.toList <:+ executable.toList
  clear : '/' ∉ name.toList
  longest : ∀ other : List Char, other <:+ executable.toList → '/' ∉ other → other <:+ name.toList

def Nameless (executable : String) : Prop := executable = "" ∨ executable.toList.getLast? = some '/'

variable {t t' : Commands} {name service executable : String}

theorem isNameOf_baseName (executable : String) : IsNameOf (baseName executable) executable := by
  obtain ⟨front, split, edge, clear⟩ := baseName_split executable
  have ends : (baseName executable).toList <:+ executable.toList := ⟨front, split.symm⟩
  refine ⟨ends, clear, ?_⟩
  intro other suffix free
  rcases List.suffix_or_suffix_of_suffix suffix ends with shorter | ⟨more, rfl⟩
  · exact shorter
  · obtain ⟨before, whole⟩ := suffix
    have same : before ++ more = front := by
      apply (List.append_left_inj (baseName executable).toList).1
      rw [List.append_assoc, whole, split]
    -- What stands in front of the name is nothing, or it ends in a slash, which the longer end would hold.
    rcases List.eq_nil_or_concat more with rfl | ⟨init, c, rfl⟩
    · simp only [List.nil_append, List.suffix_rfl]
    · rcases edge with none | last
      · simp [none] at same
      · rw [← same] at last
        obtain rfl : c = '/' := by simpa using last
        exact (free (by simp)).elim

theorem isNameOf_iff : IsNameOf name executable ↔ name = baseName executable := by
  constructor
  · intro isName
    have base := isNameOf_baseName executable
    have shorter := base.longest _ isName.ends isName.clear
    have longer := isName.longest _ base.ends base.clear
    exact String.toList_inj.1 (shorter.eq_of_length_le longer.length_le)
  · rintro rfl
    exact isNameOf_baseName executable

theorem nameless_iff : Nameless executable ↔ baseName executable = "" := by
  rw [Nameless, ← String.toList_eq_nil_iff, ← String.toList_eq_nil_iff, baseName, String.toList_ofList,
    List.reverse_eq_nil_iff]
  rcases List.eq_nil_or_concat executable.toList with none | ⟨init, c, last⟩
  · simp [none]
  · simp [last, List.takeWhile_cons]

theorem denied_iff : (∃ name ∈ denylist, IsNameOf name executable) ↔ baseName executable ∈ denylist := by
  simp [isNameOf_iff]

theorem empty_not_mem_denylist : "" ∉ denylist := by decide

theorem accepted_iff : Permissible executable ↔
    ¬Nameless executable ∧ ∀ name ∈ denylist, ¬IsNameOf name executable := by
  rw [permissible_iff, nameless_iff, ← denied_iff]
  simp only [ne_eq, not_exists, not_and]

theorem register_eq_ok_iff : t.register service executable = .ok t' ↔
    Permissible executable ∧ t' = t.insert service executable := by
  have approved : Permissible executable ↔ approve service executable = .ok () := approve_eq_ok_iff.symm
  rw [Commands.register, approved]
  cases approve service executable with
  | ok => simp [Except.map, eq_comm]
  | error e => simp [Except.map]

theorem register_eq_error_iff {e : Failure} : t.register service executable = .error e ↔
    Nameless executable ∧ e = .invalidCommand (.emptyExecutable service) ∨
      (∃ name ∈ denylist, IsNameOf name executable) ∧ e = .disallowedExecutable executable := by
  rw [Commands.register, nameless_iff, denied_iff, approve]
  by_cases empty : baseName executable = ""
  · simp [empty, empty_not_mem_denylist, Except.map, eq_comm]
  · by_cases denied : baseName executable ∈ denylist <;> simp [empty, denied, Except.map, eq_comm]

theorem registerService_performs (world : Surroundings Device.interface) (past : List (Asked Device.interface))
    (localId : String) (now : Moment) (t : Tables) (service executable : String) :
    (Device.registerService service executable).run.result world past =
        (t.commands.register service executable).map (fun _ => ()) ∧
      t.followed localId now ((Device.registerService service executable).run.transcript world past) =
        { t with commands := (t.commands.register service executable).toOption.getD t.commands } := by
  rw [Device.registerService, run_bind, FallibleRequest.run_settle, done_andThen, Commands.register]
  cases approve service executable with
  | ok => exact ⟨rfl, rfl⟩
  | error e => exact ⟨rfl, rfl⟩

def Clean (arg : String) : Prop :=
  (∀ c ∈ arg.toList, c ∉ [';', '|', '&', '\x60', '<', '>', '\n']) ∧ ¬['$', '('] <:+: arg.toList

theorem not_carriesOperator_iff {arg : String} : ¬CarriesOperator arg ↔ Clean arg := by
  rw [CarriesOperator, Clean, not_or]
  refine and_congr_left fun _ => ?_
  constructor
  · intro free c member operator
    exact free ⟨c, operator, member⟩
  · rintro free ⟨c, operator, member⟩
    exact free c member operator

theorem text_shellOperator (arg : String) : (Failure.invalidCommand (.shellOperator arg)).text =
    "invalid command: " ++ ("argument contains a shell operator: " ++ Text.quoted arg) := rfl

structure Filters : Prop where
  registered_iff : ∀ (t t' : Commands) service executable, t.register service executable = .ok t' ↔
    ¬Nameless executable ∧ (∀ name ∈ denylist, ¬IsNameOf name executable) ∧
      t'.get? service = some executable ∧ ∀ other, other ≠ service → t'.get? other = t.get? other
  nameless_iff : ∀ (t : Commands) service executable,
    t.register service executable = .error (.invalidCommand (.emptyExecutable service)) ↔ Nameless executable
  denied_iff : ∀ (t : Commands) service executable,
    t.register service executable = .error (.disallowedExecutable executable) ↔
      ∃ name ∈ denylist, IsNameOf name executable
  refused : ∀ (t : Commands) service executable e, t.register service executable = .error e →
    e = .invalidCommand (.emptyExecutable service) ∨ e = .disallowedExecutable executable
  performed : ∀ world past localId now (t : Tables) service executable,
    (Device.registerService service executable).run.result world past =
        (t.commands.register service executable).map (fun _ => ()) ∧
      t.followed localId now ((Device.registerService service executable).run.transcript world past) =
        { t with commands := (t.commands.register service executable).toOption.getD t.commands }
  verified_iff : ∀ (t t' : Commands) service executable other, t.register service executable = .ok t' →
    (t'.verify service other = .ok () ↔ other = executable)
  clean_iff : ∀ args, checkArgs args = .ok () ↔ ∀ arg ∈ args, Clean arg
  quoted : ∀ args e, checkArgs args = .error e → ∃ clean arg rest, args = clean ++ arg :: rest ∧
    (∀ earlier ∈ clean, Clean earlier) ∧ ¬Clean arg ∧ e = .invalidCommand (.shellOperator arg) ∧
    e.text = "invalid command: " ++ ("argument contains a shell operator: " ++ Text.quoted arg)

theorem filters : Filters where
  registered_iff t t' service executable := by
    rw [register_eq_ok_iff, accepted_iff, and_assoc]
    refine and_congr_right fun _ => and_congr_right fun _ => ?_
    constructor
    · rintro rfl
      exact ⟨Roster.get?_insert_self .., fun other different => by rw [Roster.get?_insert, if_neg different]⟩
    · rintro ⟨own, others⟩
      apply Roster.ext_get?
      intro other
      rw [Roster.get?_insert]
      split
      · rename_i same
        rw [same, own]
      · rename_i different
        exact others other different
  nameless_iff t service executable := by
    rw [register_eq_error_iff]
    simp
  denied_iff t service executable := by
    rw [register_eq_error_iff]
    simp
  refused t service executable e refused := by
    rcases register_eq_error_iff.1 refused with ⟨-, same⟩ | ⟨-, same⟩
    · exact .inl same
    · exact .inr same
  performed world past localId now t service executable :=
    registerService_performs world past localId now t service executable
  verified_iff t t' service executable other registered := by
    obtain ⟨-, rfl⟩ := register_eq_ok_iff.1 registered
    rw [Commands.verify, Roster.get?_insert_self, verified_eq_ok_iff, Option.some.injEq, eq_comm]
  clean_iff args := by
    rw [checkArgs_eq_ok_iff]
    exact forall₂_congr fun arg _ => not_carriesOperator_iff
  quoted args e refused := by
    obtain ⟨clean, arg, rest, split, before, carries, rfl⟩ := checkArgs_eq_error_iff.1 refused
    have unclean : ¬Clean arg := fun clean => not_carriesOperator_iff.2 clean carries
    exact ⟨clean, arg, rest, split, fun earlier member => not_carriesOperator_iff.1 (before earlier member), unclean,
      rfl, text_shellOperator arg⟩

end Emplace.Admission
