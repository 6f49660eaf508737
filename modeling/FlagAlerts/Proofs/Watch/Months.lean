import FlagAlerts.Proofs.Calendar.Month
import FlagAlerts.Proofs.Watch.Usage

/-!
# The months that scans ask about

A scan of the usage asks for it under the key of the month before the one that the clocks of its zone
show. So scans that come one month after another ask about one month after another: none is left out
and none comes twice.
-/

namespace FlagAlerts.Watch

open FlagAlerts.Calendar

/-- Of these instants each lies in the month after that of the one before it. -/
def IsMonthly (z : Zone) (times : List Int) : Prop :=
  times.IsChain fun t u => Month.ofInstant z u = (Month.ofInstant z t).next

section Months

variable {z : Zone} {t u : Int}

/-- Months follow one another just as the months before them do. -/
theorem lastBefore_next (follows : Month.ofInstant z u = (Month.ofInstant z t).next) :
    Month.lastBefore z u = (Month.lastBefore z t).next := by
  have valid := Month.isValid_ofInstant z t
  rw [Month.lastBefore, follows, valid.previous_next, Month.lastBefore, valid.next_previous]

/-- Scans one month after another are about months that follow one another. -/
theorem IsMonthly.months {rest : List Int} (monthly : IsMonthly z (t :: rest)) :
    (t :: rest).map (Month.lastBefore z) = (Month.lastBefore z t).series (rest.length + 1) := by
  induction rest generalizing t with
  | nil => rfl
  | cons u rest ih =>
    obtain ⟨follows, later⟩ := List.isChain_cons_cons.1 monthly
    rw [List.map_cons, ih later, lastBefore_next follows]
    rfl

/-- Months that follow one another have keys of their own. -/
theorem nodup_keys {m : Month} (valid : m.IsValid) (n : Nat) : ((m.series n).map Month.key).Nodup := by
  obtain ⟨sorted, members⟩ := valid.series_sorted n
  apply List.pairwise_map.2
  refine sorted.imp_of_mem fun {a b} ha hb before same => ?_
  rw [(members a ha).1.key_inj (members b hb).1] at same
  unfold Month.IsBefore at before
  rw [same] at before
  omega

end Months

/-- A scan asks for the usage in one month only. -/
theorem month_of_usageRequests {c : Contents} {s : Sender} {newId : String} {month : Month}
    {scan : Work (Except ScanFailure Unit)} (covers : CoversUsage c s newId month scan) :
    ∀ request ∈ Effect.usageRequests scan.acts, request.2 = month.key := by
  intro request asked
  cases told : c.projects with
  | error why =>
    rw [(covers.untold why told).1] at asked
    cases asked
  | ok projects =>
    rw [covers.asks projects told] at asked
    obtain ⟨project, -, asked⟩ := List.mem_flatMap.1 asked
    obtain ⟨e, -, rfl⟩ := List.mem_map.1 asked
    rfl

/-- The keys under which scans ask for the usage name each month once. The key at an instant is that of
the month before the one in which the instant lies by the clocks of the zone. Keys are the same just if
the instants lie in one month; scans one month after another ask under the keys of months that follow
one another, each of them once; and in years with no more than four digits keys are in the order of the
months. -/
theorem usage_keys_name_each_month_once {p : Platform} {c : Contents} (offers : p.Offers c)
    {s : Sender} (keeps : s.KeepsToItself) (newId : String) (z : Zone) :
    (∀ t, (Month.ofInstant z t).Contains (z.reading t / daySeconds) ∧
      (Month.lastBefore z t).Contains ((Month.ofInstant z t).firstDay - 1) ∧
      (Month.lastBefore z t).next = Month.ofInstant z t ∧
      ∀ request ∈ Effect.usageRequests (scanUsage p s newId z t).acts,
        request.2 = (Month.lastBefore z t).key) ∧
    (∀ t u, (Month.lastBefore z t).key = (Month.lastBefore z u).key ↔
      Month.ofInstant z t = Month.ofInstant z u) ∧
    (∀ t rest, IsMonthly z (t :: rest) →
      (t :: rest).map (fun u => (Month.lastBefore z u).key) =
          ((Month.lastBefore z t).series (rest.length + 1)).map Month.key ∧
        ((t :: rest).map fun u => (Month.lastBefore z u).key).Nodup) ∧
    ∀ t u, 1 ≤ (Month.ofInstant z t).year → (Month.ofInstant z t).year ≤ 9999 →
      1 ≤ (Month.ofInstant z u).year → (Month.ofInstant z u).year ≤ 9999 →
      ((Month.lastBefore z t).key < (Month.lastBefore z u).key ↔
        (Month.ofInstant z t).IsBefore (Month.ofInstant z u)) := by
  have valid (t : Int) := Month.isValid_ofInstant z t
  refine ⟨?month, ?same, ?monthly, ?order⟩
  case month =>
    intro t
    refine ⟨Month.contains_ofInstant z t, (valid t).previous_contains, (valid t).next_previous, ?_⟩
    exact month_of_usageRequests (scanUsage_coversUsage offers keeps newId z t)
  case same =>
    intro t u
    exact ((valid t).previous.key_inj (valid u).previous).trans ((valid t).previous_inj (valid u))
  case monthly =>
    intro t rest monthly
    have keys : (t :: rest).map (fun u => (Month.lastBefore z u).key) =
        ((Month.lastBefore z t).series (rest.length + 1)).map Month.key := by
      rw [← monthly.months, List.map_map]
      rfl
    exact ⟨keys, keys ▸ nodup_keys (valid t).previous _⟩
  case order =>
    intro t u least most least' most'
    have years {m : Month} (least : 1 ≤ m.year) (most : m.year ≤ 9999) :
        0 ≤ m.previous.year ∧ m.previous.year ≤ 9999 := by
      unfold Month.previous
      split <;> simp only <;> omega
    rw [Month.lastBefore, Month.lastBefore,
      (valid t).previous.key_lt_iff (valid u).previous (years least most) (years least' most')]
    exact (valid t).previous_isBefore (valid u)

/-- The usage of a month is asked for in the month after, also at the turn of a year: at half past
midnight of the first of January 2023, in February and in March, in a zone nine hours ahead of Unix
time. -/
theorem turn_of_year_keeps_months_in_order :
    let z : Zone := ⟨"Asia/Tokyo", 32400, []⟩
    IsMonthly z [1672500600, 1676000000, 1679000000] ∧
      [1672500600, 1676000000, 1679000000].map (fun t => (Month.lastBefore z t).key) =
        ["202212", "202301", "202302"] ∧
      (Month.lastBefore z 1672500600).next = ⟨2023, 1⟩ ∧
      (Month.lastBefore z 1672500600).key < (Month.lastBefore z 1676000000).key ∧
      ∀ request ∈ Effect.usageRequests (newYearScan threeProjects).acts, request.2 = "202212" := by
  intro z
  obtain ⟨month, -, monthly, order⟩ := usage_keys_name_each_month_once
    (threeProjects.platform_offers (by decide)) (Sender.failing_keepsToItself [] 0) "event" z
  have chain : IsMonthly z [1672500600, 1676000000, 1679000000] := by
    unfold IsMonthly
    decide +kernel
  have keys := (monthly 1672500600 [1676000000, 1679000000] chain).1
  obtain ⟨-, -, next, asked⟩ := month 1672500600
  have first : (Month.lastBefore z 1672500600).key = "202212" := by decide +kernel
  refine ⟨chain, keys.trans (by decide +kernel), next.trans (by decide +kernel), ?_, ?_⟩
  · have january : Month.ofInstant z 1672500600 = ⟨2023, 1⟩ := by decide +kernel
    have february : Month.ofInstant z 1676000000 = ⟨2023, 2⟩ := by decide +kernel
    have ordered := order 1672500600 1676000000
    rw [january, february] at ordered
    exact (ordered (by decide) (by decide) (by decide) (by decide)).2 (.inr ⟨rfl, by decide⟩)
  · rw [← first]
    exact asked

end FlagAlerts.Watch
