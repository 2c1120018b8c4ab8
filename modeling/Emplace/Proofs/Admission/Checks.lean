import Emplace.Admission.Commands
import Emplace.Admission.Requesters

namespace Emplace.Admission

def Permissible (executable : String) : Prop :=
  ∃ front base : List Char, executable.toList = front ++ base ∧ (front = [] ∨ front.getLast? = some '/') ∧
    '/' ∉ base ∧ base ≠ [] ∧ String.ofList base ∉ denylist

theorem baseName_eq {executable : String} {front base : List Char} (split : executable.toList = front ++ base)
    (edge : front = [] ∨ front.getLast? = some '/') (clear : '/' ∉ base) :
    baseName executable = String.ofList base := by
  have inside : ∀ c ∈ base.reverse, (c != '/') = true := by
    intro c mem
    refine bne_iff_ne.2 fun eq => clear ?_
    exact eq ▸ List.mem_reverse.1 mem
  have outside : front.reverse.takeWhile (· != '/') = [] := by
    rcases edge with rfl | last
    · rfl
    · obtain ⟨front, rfl⟩ := List.getLast?_eq_some_iff.1 last
      simp
  rw [baseName, split, List.reverse_append, List.takeWhile_append_of_pos inside, outside, List.append_nil,
    List.reverse_reverse]

theorem baseName_split (executable : String) :
    ∃ front : List Char, executable.toList = front ++ (baseName executable).toList ∧
      (front = [] ∨ front.getLast? = some '/') ∧ '/' ∉ (baseName executable).toList := by
  let back := executable.toList.reverse
  refine ⟨(back.dropWhile (· != '/')).reverse, ?_, ?_, ?_⟩
  · rw [baseName, String.toList_ofList, ← List.reverse_append, List.takeWhile_append_dropWhile, List.reverse_reverse]
  · rw [List.reverse_eq_nil_iff, List.getLast?_reverse]
    cases rest : back.dropWhile (· != '/') with
    | nil => exact .inl rfl
    | cons c cs =>
        have head := List.head?_dropWhile_not (· != '/') back
        simp only [rest, List.head?_cons] at head
        right
        simpa using head
  · intro mem
    rw [baseName, String.toList_ofList, List.mem_reverse] at mem
    simpa using List.all_eq_true.1 List.all_takeWhile '/' mem

theorem approve_eq_ok_iff {service executable : String} :
    approve service executable = .ok () ↔ Permissible executable := by
  constructor
  · intro ok
    obtain ⟨front, split, edge, clear⟩ := baseName_split executable
    unfold approve at ok
    split at ok
    · cases ok
    · rename_i full
      split at ok
      · cases ok
      · rename_i allowed
        refine ⟨front, (baseName executable).toList, split, edge, clear, ?_, ?_⟩
        · rwa [Ne, String.toList_eq_nil_iff]
        · rwa [String.ofList_toList]
  · rintro ⟨front, base, split, edge, clear, full, allowed⟩
    have named := baseName_eq split edge clear
    have nonempty : String.ofList base ≠ "" := by
      rwa [Ne, ← String.toList_eq_nil_iff, String.toList_ofList]
    rw [approve, named, if_neg nonempty, if_neg allowed]

theorem permissible_iff {executable : String} :
    Permissible executable ↔ baseName executable ≠ "" ∧ baseName executable ∉ denylist := by
  have approved : Permissible executable ↔ approve executable executable = .ok () := approve_eq_ok_iff.symm
  rw [approved, approve]
  by_cases empty : baseName executable = ""
  · simp [empty]
  · by_cases denied : baseName executable ∈ denylist <;> simp [empty, denied]

instance (executable : String) : Decidable (Permissible executable) := decidable_of_iff _ permissible_iff.symm

def CarriesOperator (arg : String) : Prop :=
  (∃ c ∈ shellOperators, c ∈ arg.toList) ∨ ['$', '('] <:+: arg.toList

theorem hasOperator_iff (cs : List Char) :
    hasOperator cs = true ↔ (∃ c ∈ shellOperators, c ∈ cs) ∨ ['$', '('] <:+: cs := by
  fun_induction hasOperator cs with
  | case1 => simp
  | case2 cs => exact iff_of_true rfl (.inr ⟨[], cs, rfl⟩)
  | case3 c cs plain ih =>
      have later : ['$', '('] <:+: c :: cs ↔ ['$', '('] <:+: cs := by
        rw [List.infix_cons_iff]
        refine or_iff_right fun start => ?_
        obtain ⟨rest, eq⟩ := start
        obtain ⟨rfl, rfl⟩ := List.cons.inj eq
        exact plain rest rfl rfl
      rw [Bool.or_eq_true, ih, later, List.contains_iff_mem]
      simp only [List.mem_cons]
      constructor
      · rintro (here | ⟨d, operator, mem⟩ | later)
        · exact .inl ⟨c, here, .inl rfl⟩
        · exact .inl ⟨d, operator, .inr mem⟩
        · exact .inr later
      · rintro (⟨d, operator, rfl | mem⟩ | later)
        · exact .inl operator
        · exact .inr (.inl ⟨d, operator, mem⟩)
        · exact .inr (.inr later)

theorem checkArgs_eq_ok_iff {args : List String} :
    checkArgs args = .ok () ↔ ∀ arg ∈ args, ¬CarriesOperator arg := by
  unfold checkArgs CarriesOperator
  simp only [← hasOperator_iff]
  cases found : args.find? fun arg => hasOperator arg.toList with
  | none => simpa using found
  | some arg =>
      refine iff_of_false (by simp) fun clean => ?_
      exact clean arg (List.mem_of_find?_eq_some found) (by simpa using List.find?_some found)

theorem checkArgs_eq_error_iff {args : List String} {e : Failure} :
    checkArgs args = .error e ↔ ∃ clean arg rest, args = clean ++ arg :: rest ∧
      (∀ earlier ∈ clean, ¬CarriesOperator earlier) ∧ CarriesOperator arg ∧
      e = .invalidCommand (.shellOperator arg) := by
  unfold checkArgs CarriesOperator
  simp only [← hasOperator_iff]
  constructor
  · intro refused
    split at refused
    · rename_i arg found
      cases refused
      obtain ⟨carries, clean, rest, split, before⟩ := List.find?_eq_some_iff_append.1 found
      exact ⟨clean, arg, rest, split, by simpa using before, carries, rfl⟩
    · cases refused
  · rintro ⟨clean, arg, rest, rfl, before, carries, rfl⟩
    have found : (clean ++ arg :: rest).find? (fun arg => hasOperator arg.toList) = some arg :=
      List.find?_eq_some_iff_append.2 ⟨carries, clean, rest, rfl, by simpa using before⟩
    rw [found]

theorem checkArgs_eq_error {args : List String} {e : Failure} (refused : checkArgs args = .error e) :
    ∃ arg ∈ args, CarriesOperator arg ∧ e = .invalidCommand (.shellOperator arg) := by
  obtain ⟨clean, arg, rest, rfl, -, carries, rfl⟩ := checkArgs_eq_error_iff.1 refused
  exact ⟨arg, List.mem_append_right clean List.mem_cons_self, carries, rfl⟩

theorem permitted_eq_ok_iff {service requester : String} {found : Option (List String)} :
    permitted service requester found = .ok () ↔ ∃ allowed, found = some allowed ∧ requester ∈ allowed := by
  cases found with
  | none => simp [permitted]
  | some allowed => by_cases listed : requester ∈ allowed <;> simp [permitted, listed]

theorem resolved_eq_ok_iff {service executable : String} {found : Option String} :
    resolved service found = .ok executable ↔ found = some executable := by
  cases found <;> simp [resolved]

theorem verified_eq_ok_iff {service executable : String} {found : Option String} :
    verified service executable found = .ok () ↔ found = some executable := by
  cases found with
  | none => simp [verified, resolved]
  | some registered => by_cases same : registered = executable <;> simp [verified, resolved, same]

end Emplace.Admission
