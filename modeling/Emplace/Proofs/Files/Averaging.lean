import Emplace.Files.Bandwidth
import Emplace.Proofs.Files.Listing
import Emplace.Proofs.Number.Doubles
import Emplace.Proofs.Text.Numeral
import Emplace.Proofs.Text.Utf8
import Mathlib.Algebra.BigOperators.Group.Multiset.Basic
import Mathlib.Data.Finset.Dedup

/-!
# The mean queue length

What a folder of network interfaces gives, told by the lengths that its entries show. Their sum and their number are
kept in 64-bit words (`wrappedMean`), so it is the mean of the lengths just as long as the sum fits: of a greater one
only what is left modulo `2 ^ 64` counts, and this is never near enough to give the same double. Entries that show no
length do not matter, nor does the order in which a folder is listed.
-/

namespace Emplace.Files

open Number (nearest)

def Reads (content : Bytes) (n : ℕ) : Prop :=
  ∃ before numeral after, content = Text.encode (before ++ numeral ++ after) ∧
    (∀ c ∈ before, Text.isBlank c = true) ∧ (∀ c ∈ after, Text.isBlank c = true) ∧ Text.Denotes numeral n

def Shows (disk : Disk) (path name : String) (n : ℕ) : Prop :=
  (∃ mark ∈ ["eth", "enp", "wl"], mark.toList <:+: name.toList) ∧
    ∃ place content, disk.find (join (join path name) "tx_queue_len") = .ok (place, .file content) ∧ Reads content n

def Shown (disk : Disk) (path : String) (entries : List (String × Tree)) (lengths : Multiset ℕ) : Prop :=
  ∃ shown : Finset (String × ℕ),
    (∀ name n, (name, n) ∈ shown ↔ (∃ node, entries.lookup name = some node) ∧ Shows disk path name n) ∧
      lengths = shown.val.map Prod.snd

variable {disk : Disk} {path name : String} {entries : List (String × Tree)} {lengths lengths' : Multiset ℕ} {n : ℕ}
  {content : Bytes} {w : UInt64}

theorem isPhysicalLink_iff :
    isPhysicalLink name = true ↔ ∃ mark ∈ ["eth", "enp", "wl"], mark.toList <:+: name.toList := by
  simp only [isPhysicalLink, linkMarks, List.any_eq_true, Text.occursIn_eq_true_iff]

theorem toNat_ofNat_of_lt_two_pow (fits : n < 2 ^ 64) : (UInt64.ofNat n).toNat = n :=
  UInt64.toNat_ofNat_of_lt' (by rwa [UInt64.size])

theorem Reads.lt_two_pow (reads : Reads content n) : n < 2 ^ 64 := by
  obtain ⟨_, _, _, _, _, _, count⟩ := reads
  exact Text.lt_two_pow_of_denotes count

theorem not_reads_nil : ¬Reads [] n := by
  rintro ⟨before, numeral, after, encoded, -, -, count⟩
  obtain ⟨front, digit, rfl, -⟩ := Text.exists_last_digit count
  have nothing := (Text.encode_eq_nil_iff _).1 encoded.symm
  simp at nothing

theorem reads_iff :
    Reads content n ↔ ∃ text, Text.decode? content = some text ∧ Text.word64? (Text.trim text) = some n := by
  simp only [Text.decode?_eq_some_iff, Text.word64?_trim_eq_some_iff]
  constructor
  · rintro ⟨before, numeral, after, encoded, written⟩
    exact ⟨_, encoded, before, numeral, after, rfl, written⟩
  · rintro ⟨_, encoded, before, numeral, after, rfl, written⟩
    exact ⟨before, numeral, after, encoded, written⟩

theorem word_eq_some_iff :
    ((Text.decode? content).bind fun text => (Text.word64? (Text.trim text)).map UInt64.ofNat) = some w ↔
      Reads content w.toNat := by
  simp only [reads_iff, Option.bind_eq_some_iff, Option.map_eq_some_iff]
  refine exists_congr fun text => and_congr_right fun _ => ?_
  constructor
  · rintro ⟨n, count, rfl⟩
    rwa [toNat_ofNat_of_lt_two_pow (Text.le_maxWord64_iff.1 (Text.word64?_le count))]
  · intro count
    exact ⟨w.toNat, count, UInt64.ofNat_toNat⟩

theorem queueLength?_eq_some_iff : queueLength? disk path name = some w ↔
    ∃ place content, disk.find (join (join path name) "tx_queue_len") = .ok (place, .file content) ∧
      Reads content w.toNat := by
  unfold queueLength? Disk.read
  generalize disk.find (join (join path name) "tx_queue_len") = found
  cases found with
  | error cause => simp
  | ok standing =>
    obtain ⟨place, node⟩ := standing
    cases node with
    | file content => simp [word_eq_some_iff]
    | folder entries => simp
    | device => simp [word_eq_some_iff, not_reads_nil]
    | link target => simp [word_eq_some_iff, not_reads_nil]

theorem shows_iff : Shows disk path name n ↔
    isPhysicalLink name = true ∧ ∃ w, queueLength? disk path name = some w ∧ w.toNat = n := by
  simp only [Shows, isPhysicalLink_iff, queueLength?_eq_some_iff]
  refine and_congr_right fun _ => ?_
  constructor
  · rintro ⟨place, content, found, reads⟩
    have word : (UInt64.ofNat n).toNat = n := toNat_ofNat_of_lt_two_pow reads.lt_two_pow
    exact ⟨UInt64.ofNat n, ⟨place, content, found, by rwa [word]⟩, word⟩
  · rintro ⟨w, ⟨place, content, found, reads⟩, rfl⟩
    exact ⟨place, content, found, reads⟩

structure Lists (names : List String) (entries : List (String × Tree)) : Prop where
  once : names.Nodup
  mem_iff : ∀ name, name ∈ names ↔ ∃ node, entries.lookup name = some node

theorem lists_sorted (entries : List (String × Tree)) : Lists ((sorted entries).map Prod.fst) entries where
  once := by
    refine (List.pairwise_map.2 (ascending_sorted entries)).imp ?_
    rintro name name' before rfl
    exact String.lt_irrefl name before
  mem_iff name := by
    simp only [List.mem_map, Prod.exists, mem_sorted_iff]
    constructor
    · rintro ⟨name, node, held, rfl⟩
      exact ⟨node, held⟩
    · rintro ⟨node, held⟩
      exact ⟨name, node, held, rfl⟩

theorem Shown.unique (shown : Shown disk path entries lengths) (shown' : Shown disk path entries lengths') :
    lengths = lengths' := by
  obtain ⟨pairs, mem, rfl⟩ := shown
  obtain ⟨pairs', mem', rfl⟩ := shown'
  have same : pairs = pairs' := by
    ext ⟨name, n⟩
    rw [mem, mem']
  rw [same]

theorem Shown.lt_two_pow (shown : Shown disk path entries lengths) (counted : n ∈ lengths) : n < 2 ^ 64 := by
  obtain ⟨pairs, mem, rfl⟩ := shown
  obtain ⟨⟨name, n⟩, held, rfl⟩ := Multiset.mem_map.1 counted
  obtain ⟨_, _, _, _, _, reads⟩ := (mem name n).1 held
  exact reads.lt_two_pow

def measured? (disk : Disk) (path name : String) : Option (String × ℕ) :=
  (queueLength? disk path name).map fun w => (name, w.toNat)

theorem measured?_eq_some_iff {measured : String × ℕ} : measured? disk path name = some measured ↔
    name = measured.1 ∧ ∃ w, queueLength? disk path name = some w ∧ w.toNat = measured.2 := by
  simp only [measured?, Option.map_eq_some_iff, Prod.ext_iff]
  constructor
  · rintro ⟨w, read, named, same⟩
    exact ⟨named, w, read, same⟩
  · rintro ⟨named, w, read, same⟩
    exact ⟨w, read, named, same⟩

theorem shown_queueLengths {names : List String} (lists : Lists names entries) :
    Shown disk path entries ((queueLengths disk path names).map UInt64.toNat) := by
  -- Two links may have queues of one length, but each name is listed once.
  have once : ((names.filter isPhysicalLink).filterMap (measured? disk path)).Nodup := by
    refine (lists.once.filter _).filterMap fun name name' measured first second => ?_
    rw [(measured?_eq_some_iff.1 first).1, (measured?_eq_some_iff.1 second).1]
  refine ⟨⟨_, Multiset.coe_nodup.2 once⟩, fun name n => ?_, ?_⟩
  · rw [Finset.mem_mk, Multiset.mem_coe, List.mem_filterMap, shows_iff, ← lists.mem_iff]
    simp only [List.mem_filter, measured?_eq_some_iff]
    constructor
    · rintro ⟨_, ⟨listed, physical⟩, rfl, measured⟩
      exact ⟨listed, physical, measured⟩
    · rintro ⟨listed, physical, measured⟩
      exact ⟨name, ⟨listed, physical⟩, rfl, measured⟩
  · rw [Multiset.map_coe, List.map_filterMap, queueLengths, List.map_filterMap]
    simp only [measured?, Option.map_map, Function.comp_def]

theorem shown_of_queueLengths (words : List UInt64)
    (read : queueLengths disk path ((sorted entries).map Prod.fst) = words) :
    Shown disk path entries (words.map UInt64.toNat) :=
  read ▸ shown_queueLengths (lists_sorted entries)

theorem toNat_foldl_add (words : List UInt64) (w : UInt64) :
    (words.foldl (· + ·) w).toNat = (w.toNat + (words.map UInt64.toNat).sum) % 2 ^ 64 := by
  induction words generalizing w with
  | nil => simp
  | cons w' words ih =>
    rw [List.foldl_cons, ih, UInt64.toNat_add, List.map_cons, List.sum_cons]
    omega

theorem toFloat_eq_nearest (w : UInt64) : w.toFloat = nearest w.toNat := rfl

/-- The mean of lengths of which sum and number are kept modulo `2 ^ 64`. -/
def wrappedMean (lengths : Multiset ℕ) : Except TelemetryError Float :=
  if lengths.card % 2 ^ 64 = 0 then .error (.unavailable "network/bandwidth: no matching interface")
  else .ok (nearest (lengths.sum % 2 ^ 64) / nearest (lengths.card % 2 ^ 64))

theorem meanLength_eq_wrappedMean (words : List UInt64) :
    meanLength words = wrappedMean (words.map UInt64.toNat) := by
  have total : (words.foldl (· + ·) 0).toNat = (words.map UInt64.toNat).sum % 2 ^ 64 := by
    simpa using toNat_foldl_add words 0
  have count : (UInt64.ofNat words.length).toNat = words.length % 2 ^ 64 := UInt64.toNat_ofNat'
  have empty : UInt64.ofNat words.length = 0 ↔ words.length % 2 ^ 64 = 0 := by
    rw [← UInt64.toNat_inj, count]
    rfl
  simp only [meanLength, wrappedMean, empty, toFloat_eq_nearest, count, total, Multiset.coe_card, List.length_map,
    Multiset.sum_coe]

theorem sum_lt_two_pow (few : lengths.card < 2 ^ 64) (words : ∀ n ∈ lengths, n < 2 ^ 64) :
    lengths.sum < 2 ^ 128 := by
  have most := Multiset.sum_le_card_nsmul lengths (2 ^ 64) fun n counted => (words n counted).le
  rw [Nat.nsmul_eq_mul] at most
  omega

theorem wrappedMean_eq_mean_iff (shows : lengths ≠ 0) (few : lengths.card < 2 ^ 64) (words : ∀ n ∈ lengths, n < 2 ^ 64) :
    wrappedMean lengths = .ok (nearest lengths.sum / nearest lengths.card) ↔ lengths.sum < 2 ^ 64 := by
  rw [wrappedMean, Nat.mod_eq_of_lt few, if_neg (mt Multiset.card_eq_zero.1 shows), Except.ok.injEq]
  constructor
  · contrapose!
    intro exceeds
    -- A whole word is lost, which is more than what is left of the sum.
    have twice : 2 * (lengths.sum % 2 ^ 64) < lengths.sum := by omega
    exact Number.nearest_div_ne twice (Multiset.card_pos.2 shows) (sum_lt_two_pow few words) (by omega)
  · intro fits
    rw [Nat.mod_eq_of_lt fits]

theorem wrappedMean_unavailable_iff (few : lengths.card < 2 ^ 64) :
    (∃ what, wrappedMean lengths = .error (.unavailable what)) ↔ lengths = 0 := by
  rw [wrappedMean, Nat.mod_eq_of_lt few]
  by_cases empty : lengths = 0 <;> simp [empty]

theorem meanLength_of_lists {names : List String} (lists : Lists names entries)
    (shown : Shown disk path entries lengths) : meanLength (queueLengths disk path names) = wrappedMean lengths := by
  rw [meanLength_eq_wrappedMean, (shown_queueLengths lists).unique shown]

theorem bandwidth_of_folder {place : Place} (found : disk.find path = .ok (place, .folder entries)) :
    bandwidth disk path = meanLength (queueLengths disk path ((sorted entries).map Prod.fst)) := by
  rw [bandwidth, Disk.list_of_folder found]

theorem bandwidth_of_shown {place : Place} (found : disk.find path = .ok (place, .folder entries))
    (shown : Shown disk path entries lengths) : bandwidth disk path = wrappedMean lengths := by
  rw [bandwidth_of_folder found, meanLength_of_lists (lists_sorted entries) shown]

structure Averages (disk : Disk) (path : String) (entries : List (String × Tree)) (lengths : Multiset ℕ) : Prop where
  wrapped : bandwidth disk path = wrappedMean lengths
  unavailable_iff : lengths.card < 2 ^ 64 →
    ((∃ what, bandwidth disk path = .error (.unavailable what)) ↔ lengths = 0)
  mean_iff : lengths ≠ 0 → lengths.card < 2 ^ 64 →
    (bandwidth disk path = .ok (nearest lengths.sum / nearest lengths.card) ↔ lengths.sum < 2 ^ 64)
  unordered : ∀ names, Lists names entries → meanLength (queueLengths disk path names) = bandwidth disk path
  alone : ∀ other path' place' entries', Disk.find other path' = .ok (place', .folder entries') →
    Shown other path' entries' lengths → bandwidth other path' = bandwidth disk path

/-- A folder of interfaces gives the mean of the lengths that its entries show, just as long as the sum fits a word. -/
theorem averages {place : Place} (found : disk.find path = .ok (place, .folder entries)) :
    (∃! lengths, Shown disk path entries lengths) ∧
      ∀ lengths, Shown disk path entries lengths → Averages disk path entries lengths := by
  have listed : Shown disk path entries _ := shown_queueLengths (lists_sorted entries)
  refine ⟨⟨_, listed, fun lengths shown => shown.unique listed⟩, ?_⟩
  intro lengths shown
  have wrapped := bandwidth_of_shown found shown
  exact
    { wrapped
      unavailable_iff := fun few => by rw [wrapped, wrappedMean_unavailable_iff few]
      mean_iff := fun shows few => by rw [wrapped, wrappedMean_eq_mean_iff shows few fun n => shown.lt_two_pow]
      unordered := fun names lists => by rw [wrapped, meanLength_of_lists lists shown]
      alone := fun other path' place' entries' found' shown' => by rw [wrapped, bandwidth_of_shown found' shown'] }

def interface (length : String) : Tree := .folder [("tx_queue_len", .file (Text.encode length.toList))]

def attached : List (String × Tree) :=
  [("wlan0", .link "devices/wl"), ("eth0", interface " 1000\n"), ("enp3s0", interface "garbage"),
    ("lo", interface "9999"), ("devices", .folder [("wl", interface "+500")])]

theorem averages_links :
    Disk.find ⟨.folder attached, []⟩ "/" = .ok ([], .folder attached) ∧
      Shown ⟨.folder attached, []⟩ "/" attached {1000, 500} ∧
      bandwidth ⟨.folder attached, []⟩ "/" = .ok (nearest 1500 / nearest 2) := by
  have found : Disk.find ⟨.folder attached, []⟩ "/" = .ok ([], .folder attached) := rfl
  have shown : Shown ⟨.folder attached, []⟩ "/" attached {1000, 500} :=
    shown_of_queueLengths [1000, 500] (by decide +kernel)
  have gives := (averages found).2 _ shown
  exact ⟨found, shown, (gives.mean_iff (by decide) (by decide)).2 (by decide)⟩

def crowded : List (String × Tree) := [("eth0", interface "18446744073709551615"), ("eth1", interface "1")]

theorem averages_wrapped :
    let lengths : Multiset ℕ := {18446744073709551615, 1}
    Shown ⟨.folder crowded, []⟩ "/" crowded lengths ∧ lengths ≠ 0 ∧ bandwidth ⟨.folder crowded, []⟩ "/" = .ok 0 ∧
      (0 : Float) ≠ nearest lengths.sum / nearest lengths.card := by
  refine ⟨shown_of_queueLengths [18446744073709551615, 1] (by decide +kernel), by decide, ?_, ?_⟩
  · decide +kernel
  · decide +kernel

end Emplace.Files
