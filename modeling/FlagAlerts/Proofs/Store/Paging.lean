import FlagAlerts.Proofs.Store.Listing

/-!
# What a listing asks for and what it finds

A store may answer each request in its own way: it may depend on all that was asked before, take
time and do things. Whatever it answers, a listing first asks with an empty cursor and then with the
cursor of each page, up to the first page that is short or refused, and asks nothing after that. It
finds what these pages hold, one after another, or the error alone. Where pages are parts of a list,
this is the list.
-/

namespace FlagAlerts.Page

open FlagAlerts.Text

variable {σ α : Type} {size limit : Nat} {cursor : String}

/-- A way to ask for pages, which may depend on what was asked before. -/
abbrev Fetch (σ α : Type) := ListRequest → StateT σ Work (Except StoreError (Page α))

/-- What was asked, with the answers, in order. -/
abbrev Exchanges (α : Type) := List (ListRequest × Except StoreError (Page α))

/-- The same way to ask for pages, with a note of each request and its answer. -/
def noting (fetch : Fetch σ α) : Fetch (σ × Exchanges α) α := fun request before => do
  let (answer, state) ← (fetch request).run before.1
  return (answer, state, before.2 ++ [(request, answer)])

/-- What a listing finds, the state that it leaves, and what was asked for. -/
def listing (fetch : Fetch σ α) (size limit : Nat) (start : σ) :
    Except StoreError (List α) × σ × Exchanges α :=
  ((collectAll size limit (noting fetch)).run (start, [])).result

/-- The requests of a listing: an empty cursor, and then the cursor of each page. -/
def requestsFor (size : Nat) (pages : List (Page α)) : List ListRequest :=
  ("" :: pages.map nextCursor).map (⟨size, ·⟩)

/-- What full pages and the answer after them hold together; an error leaves nothing. -/
def found (full : List (Page α)) (last : Except StoreError (Page α)) :
    Except StoreError (List α) :=
  last.map fun page => full.flatMap items ++ page.items

/-- A listing that ends: after full pages comes an answer that is short or refused, and it is the
last one, however many pages are allowed for. -/
structure Ends (fetch : Fetch σ α) (size : Nat) (start : σ) (full : List (Page α))
    (last : Except StoreError (Page α)) : Prop where
  goesOn : ∀ page ∈ full, size ≤ page.items.length
  isOver : ∀ page, last = .ok page → page.items.length < size
  listed : ∃ final exchanges, exchanges.map (·.1) = requestsFor size full ∧
    exchanges.map (·.2) = full.map .ok ++ [last] ∧
    ∀ limit, full.length < limit →
      ((collectAll size limit fetch).run start).result = (found full last, final) ∧
      listing fetch size limit start = (found full last, final, exchanges)

/-- A listing without an end: as many pages as are allowed for are asked for, and all are full. Then
it is given up, and nothing of it is kept. -/
def IsEndless (fetch : Fetch σ α) (size : Nat) (start : σ) : Prop :=
  ∀ limit, ∃ full final exchanges, full.length = limit ∧
    (∀ page ∈ full, size ≤ page.items.length) ∧
    exchanges.map (·.1) = (requestsFor size full).dropLast ∧
    exchanges.map (·.2) = full.map .ok ∧
    listing fetch size limit start = (.error .unending, final, exchanges)

/-- A store whose pages are parts of a list, whatever else it does. -/
def Serves (fetch : Fetch σ α) (items : List α) : Prop :=
  ∀ request state, ((fetch request).run state).result.1 = ofList items request

/-! ## One request -/

section Steps

variable {fetch : Fetch σ α} {s s' : σ} {page : Page α}

theorem collectFrom_refused {e : StoreError}
    (answered : ((fetch ⟨size, cursor⟩).run s).result = (.error e, s')) :
    ((collectFrom fetch size (limit + 1) cursor).run s).result = (.error e, s') := by
  rw [collectFrom, StateT.run_bind, Timed.result_bind, answered]
  rfl

theorem collectFrom_short
    (answered : ((fetch ⟨size, cursor⟩).run s).result = (.ok page, s'))
    (short : page.items.length < size) :
    ((collectFrom fetch size (limit + 1) cursor).run s).result = (.ok page.items, s') := by
  rw [collectFrom, StateT.run_bind, Timed.result_bind, answered]
  simp only [if_pos short]
  rfl

theorem collectFrom_full
    (answered : ((fetch ⟨size, cursor⟩).run s).result = (.ok page, s'))
    (full : size ≤ page.items.length) :
    ((collectFrom fetch size (limit + 1) cursor).run s).result =
      let rest := ((collectFrom fetch size limit page.nextCursor).run s').result
      (rest.1.map (page.items ++ ·), rest.2) := by
  rw [collectFrom, StateT.run_bind, Timed.result_bind, answered]
  simp only [if_neg (Nat.not_lt.2 full), StateT.run_bind, Timed.result_bind]
  generalize ((collectFrom fetch size limit page.nextCursor).run s').result = rest
  obtain ⟨rest, final⟩ := rest
  cases rest <;> rfl

theorem result_noting {answer : Except StoreError (Page α)} {request : ListRequest}
    (answered : ((fetch request).run s).result = (answer, s')) (exchanges : Exchanges α) :
    ((noting fetch request).run (s, exchanges)).result =
      (answer, s', exchanges ++ [(request, answer)]) := by
  show (((fetch request).run s) >>= _).result = _
  rw [Timed.result_bind, answered]
  rfl

end Steps

/-- Taking notes changes neither what is found nor the state that is left. -/
theorem collectFrom_noting (fetch : Fetch σ α) (size limit : Nat) (cursor : String) (s : σ)
    (exchanges : Exchanges α) :
    ((collectFrom fetch size limit cursor).run s).result =
      let noted := ((collectFrom (noting fetch) size limit cursor).run (s, exchanges)).result
      (noted.1, noted.2.1) := by
  induction limit generalizing cursor s exchanges with
  | zero => rfl
  | succ limit ih =>
    rcases answered : ((fetch ⟨size, cursor⟩).run s).result with ⟨answer, s'⟩
    have noted := result_noting answered exchanges
    cases answer with
    | error e => rw [collectFrom_refused answered, collectFrom_refused noted]
    | ok page =>
      rcases Nat.lt_or_ge page.items.length size with short | full
      · rw [collectFrom_short answered short, collectFrom_short noted short]
      · rw [collectFrom_full answered full, collectFrom_full noted full, ih]

/-! ## Full pages, one after another -/

/-- Full pages, each asked for with the cursor of the page before, with the cursor and the state
that they lead to. -/
inductive FullRun (fetch : Fetch σ α) (size : Nat) (start : σ) :
    List (Page α) → String → σ → Prop where
  | start : FullRun fetch size start [] "" start
  | more {pages : List (Page α)} {cursor : String} {s s' : σ} {page : Page α}
      (before : FullRun fetch size start pages cursor s)
      (answered : ((fetch ⟨size, cursor⟩).run s).result = (.ok page, s'))
      (full : size ≤ page.items.length) :
      FullRun fetch size start (pages ++ [page]) page.nextCursor s'

section Runs

variable {fetch : Fetch σ α} {start s s' : σ} {full : List (Page α)}

theorem FullRun.goesOn (run : FullRun fetch size start full cursor s) :
    ∀ page ∈ full, size ≤ page.items.length := by
  induction run with
  | start => simp
  | more before answered long ih =>
    intro page at_
    rcases List.mem_append.1 at_ with earlier | last
    · exact ih page earlier
    · rw [List.mem_singleton.1 last]
      exact long

theorem requestsFor_append (full : List (Page α)) (page : Page α) :
    requestsFor size (full ++ [page]) = requestsFor size full ++ [⟨size, page.nextCursor⟩] := by
  simp [requestsFor]

/-- A listing passes over full pages: it asks for them and keeps what they hold. -/
theorem FullRun.listing (run : FullRun fetch size start full cursor s) :
    ∃ exchanges, exchanges.map (·.1) ++ [⟨size, cursor⟩] = requestsFor size full ∧
      exchanges.map (·.2) = full.map .ok ∧
      ∀ limit, listing fetch size (full.length + limit) start =
        let rest := ((collectFrom (noting fetch) size limit cursor).run (s, exchanges)).result
        (rest.1.map (full.flatMap items ++ ·), rest.2) := by
  induction run with
  | start =>
    refine ⟨[], rfl, rfl, fun limit => ?_⟩
    rw [List.length_nil, Nat.zero_add]
    show ((collectFrom (noting fetch) size limit "").run (start, [])).result = _
    generalize ((collectFrom (noting fetch) size limit "").run (start, [])).result = rest
    obtain ⟨rest, final⟩ := rest
    cases rest <;> rfl
  | @more pages cursor s s' page before answered long ih =>
    obtain ⟨exchanges, requests, answers, listed⟩ := ih
    refine ⟨exchanges ++ [(⟨size, cursor⟩, .ok page)], ?_, ?_, fun limit => ?_⟩
    · rw [requestsFor_append, ← requests]
      simp
    · simp [answers]
    · have more : (pages ++ [page]).length + limit = pages.length + (limit + 1) := by
        rw [List.length_append, List.length_singleton]
        omega
      rw [more, listed, collectFrom_full (result_noting answered exchanges) long]
      simp only
      generalize ((collectFrom (noting fetch) size limit page.nextCursor).run _).result = rest
      obtain ⟨rest, final⟩ := rest
      cases rest <;> simp [Except.map]

/-- Full pages without an end are all asked for, and the listing is given up after them. -/
theorem FullRun.listing_full (run : FullRun fetch size start full cursor s) :
    ∃ exchanges, exchanges.map (·.1) = (requestsFor size full).dropLast ∧
      exchanges.map (·.2) = full.map .ok ∧
      Page.listing fetch size full.length start = (.error .unending, s, exchanges) := by
  obtain ⟨exchanges, requests, answers, listed⟩ := run.listing
  refine ⟨exchanges, ?_, answers, ?_⟩
  · rw [← requests, List.dropLast_concat]
  · have whole := listed 0
    rw [Nat.add_zero] at whole
    rw [whole]
    rfl

/-- A listing ends with the first answer that is short or refused. -/
theorem FullRun.ends (run : FullRun fetch size start full cursor s)
    {last : Except StoreError (Page α)}
    (answered : ((fetch ⟨size, cursor⟩).run s).result = (last, s'))
    (isOver : ∀ page, last = .ok page → page.items.length < size) :
    Ends fetch size start full last := by
  obtain ⟨exchanges, requests, answers, listed⟩ := run.listing
  refine ⟨run.goesOn, isOver, s', exchanges ++ [(⟨size, cursor⟩, last)], ?_, ?_, ?_⟩
  · rw [List.map_append, ← requests]
    rfl
  · rw [List.map_append, answers]
    rfl
  intro limit enough
  obtain ⟨more, rfl⟩ := Nat.exists_eq_add_of_lt enough
  have noted := result_noting answered exchanges
  have ended : Page.listing fetch size (full.length + more + 1) start =
      (found full last, s', exchanges ++ [(⟨size, cursor⟩, last)]) := by
    rw [Nat.add_assoc, listed]
    cases last with
    | error e =>
      rw [collectFrom_refused noted]
      rfl
    | ok page =>
      rw [collectFrom_short noted (isOver page rfl)]
      rfl
  refine ⟨?_, ended⟩
  rw [collectAll, collectFrom_noting fetch size _ "" start []]
  show ((Page.listing fetch size _ start).1, (Page.listing fetch size _ start).2.1) = _
  rw [ended]

/-- After so many full pages, or before, comes an answer that is short or refused; otherwise there
are as many full pages as one likes. -/
theorem ends_or_fullRun (fetch : Fetch σ α) (size : Nat) (start : σ) (pages : Nat) :
    (∃ full last, Ends fetch size start full last) ∨
      ∃ full cursor s, full.length = pages ∧ FullRun fetch size start full cursor s := by
  induction pages with
  | zero => exact .inr ⟨[], "", start, rfl, .start⟩
  | succ pages ih =>
    rcases ih with ended | ⟨full, cursor, s, count, run⟩
    · exact .inl ended
    rcases answered : ((fetch ⟨size, cursor⟩).run s).result with ⟨answer, s'⟩
    cases answer with
    | error e =>
      left
      exact ⟨full, .error e, run.ends answered (by simp)⟩
    | ok page =>
      rcases Nat.lt_or_ge page.items.length size with short | long
      · left
        refine ⟨full, .ok page, run.ends answered ?_⟩
        rintro _ ⟨⟩
        exact short
      · right
        refine ⟨full ++ [page], page.nextCursor, s', ?_, .more run answered long⟩
        rw [List.length_append, count, List.length_singleton]

end Runs

/-! ## The pages of a list -/

/-- The cursor of a page of a list. -/
def cursorAt (size pages : Nat) : String := if pages = 0 then "" else decimal (pages * size)

theorem offset?_cursorAt {pages : Nat} (countable : pages * size ≤ maxUInt64) :
    offset? (cursorAt size pages) = .ok (pages * size) := by
  rw [cursorAt]
  split
  next first =>
    rw [first, Nat.zero_mul]
    exact offset?_empty
  next => exact offset?_decimal countable

section Lists

variable {fetch : Fetch σ α} {list : List α} {start : σ}

theorem Serves.answered (serves : Serves fetch list) (positive : 0 < size) (pages : Nat)
    (countable : pages * size ≤ maxUInt64) (s : σ) :
    ∃ s', ((fetch ⟨size, cursorAt size pages⟩).run s).result =
      (.ok ⟨(list.drop (pages * size)).take size, decimal (min (pages * size + size) list.length)⟩,
        s') := by
  have page := serves ⟨size, cursorAt size pages⟩ s
  rw [ofList_at (offset?_cursorAt countable) positive] at page
  exact ⟨_, Prod.ext page rfl⟩

/-- The full pages of a list hold its first part; each is asked for with the number of the things
listed so far. -/
theorem Serves.fullRun (serves : Serves fetch list) (positive : 0 < size)
    (countable : list.length ≤ maxUInt64) {pages : Nat} (inside : pages * size ≤ list.length) :
    ∃ full s, full.length = pages ∧ FullRun fetch size start full (cursorAt size pages) s ∧
      full.flatMap items = list.take (pages * size) ∧
      requestsFor size full = (List.range (pages + 1)).map (⟨size, cursorAt size ·⟩) := by
  induction pages with
  | zero =>
    refine ⟨[], start, rfl, .start, ?_, rfl⟩
    rw [Nat.zero_mul]
    rfl
  | succ pages ih =>
    have room : pages * size + size ≤ list.length := by
      rwa [Nat.succ_mul] at inside
    obtain ⟨full, s, count, run, listed, requests⟩ := ih (by omega)
    obtain ⟨s', answered⟩ := serves.answered positive pages (by omega) s
    have next : decimal (min (pages * size + size) list.length) = cursorAt size (pages + 1) := by
      rw [Nat.min_eq_left room, cursorAt, if_neg (Nat.succ_ne_zero pages), Nat.succ_mul]
    have whole : ((list.drop (pages * size)).take size).length = size := by
      rw [List.length_take, List.length_drop]
      omega
    rw [next] at answered
    refine ⟨_, s', ?_, .more run answered (Nat.le_of_eq whole.symm), ?_, ?_⟩
    · rw [List.length_append, count, List.length_singleton]
    · rw [List.flatMap_append, listed, Nat.succ_mul, List.take_add]
      simp
    · rw [requestsFor_append, requests, List.range_succ (n := pages + 1), List.map_append]
      rfl

/-- After the full pages of a list comes a page with what is left, which may be nothing. -/
theorem Serves.ends (serves : Serves fetch list) (positive : 0 < size)
    (countable : list.length ≤ maxUInt64) :
    ∃ full last, Ends fetch size start full last ∧ found full last = .ok list ∧
      full.length = list.length / size ∧
      requestsFor size full =
        (List.range (list.length / size + 1)).map (⟨size, cursorAt size ·⟩) := by
  have inside : list.length / size * size ≤ list.length := Nat.div_mul_le_self _ _
  have rest : list.length - list.length / size * size < size := by
    have := Nat.mod_lt list.length positive
    have := Nat.div_add_mod' list.length size
    omega
  obtain ⟨full, s, count, run, listed, requests⟩ := serves.fullRun positive countable inside
  obtain ⟨s', answered⟩ := serves.answered positive (list.length / size) (by omega) s
  have short : (list.drop (list.length / size * size)).length < size := by
    rw [List.length_drop]
    exact rest
  rw [List.take_of_length_le (Nat.le_of_lt short)] at answered
  refine ⟨full, _, run.ends answered ?_, ?_, count, requests⟩
  · rintro _ ⟨⟩
    exact short
  · show Except.ok (full.flatMap items ++ _) = _
    rw [listed, List.take_append_drop]

end Lists

/-- What a listing asks for and what it finds, for any store: with pages of at least one thing it
goes on as long as pages are full, with the cursor of each, and it ends with the first answer that
is not. If the pages are parts of a list, then it ends with one request more than the list has full
pages, and finds the list. -/
theorem collectAll_exact (fetch : Fetch σ α) (start : σ) (size : Nat) (positive : 0 < size) :
    ((∃ full last, Ends fetch size start full last) ∨ IsEndless fetch size start) ∧
      ∀ list : List α, Serves fetch list → list.length ≤ maxUInt64 →
        ∃ full last, Ends fetch size start full last ∧ found full last = .ok list ∧
          full.length = list.length / size ∧
          requestsFor size full =
            (List.range (list.length / size + 1)).map (⟨size, cursorAt size ·⟩) := by
  constructor
  · by_cases ended : ∃ full last, Ends fetch size start full last
    · exact .inl ended
    right
    intro limit
    obtain ⟨full, cursor, s, count, run⟩ := (ends_or_fullRun fetch size start limit).resolve_left ended
    obtain ⟨exchanges, requests, answers, listed⟩ := run.listing_full
    rw [count] at listed
    exact ⟨full, s, exchanges, count, run.goesOn, requests, answers, listed⟩
  · intro list serves countable
    exact serves.ends positive countable

/-- A store with a list of things that counts how often it is asked. -/
def counted (list : List α) : Fetch Nat α := fun request count =>
  pure (ofList list request, count + 1)

theorem serves_counted (list : List α) : Serves (counted list) list := by
  intro request count
  rfl

/-- Four things on pages of two take three requests, the last of which finds nothing. -/
theorem collectAll_exact_four :
    0 < 2 ∧ Serves (counted [1, 2, 3, 4]) [1, 2, 3, 4] ∧ [1, 2, 3, 4].length ≤ maxUInt64 ∧
      ∃ full last, Ends (counted [1, 2, 3, 4]) 2 0 full last ∧ found full last = .ok [1, 2, 3, 4] ∧
        requestsFor 2 full = [⟨2, ""⟩, ⟨2, "2"⟩, ⟨2, "4"⟩] := by
  have serves := serves_counted [1, 2, 3, 4]
  have countable : [1, 2, 3, 4].length ≤ maxUInt64 := by decide
  refine ⟨by decide, serves, countable, ?_⟩
  obtain ⟨full, last, ended, whole, _, requests⟩ :=
    (collectAll_exact (counted [1, 2, 3, 4]) 0 2 (by decide)).2 _ serves countable
  exact ⟨full, last, ended, whole, requests.trans (by decide +kernel)⟩

end FlagAlerts.Page
