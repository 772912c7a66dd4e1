import DeviceSessions.Proofs.Database.Frame
import DeviceSessions.Proofs.Text.Lowercase
import DeviceSessions.User.Directory
import Mathlib.Data.List.Induction

/-!
# Finding users by address

Letter case and white space around it do not belong to an address. The directory in memory passes over
the white space when it is asked, and the database when a user is added. So in memory a user is found
who was added without white space, and in the database one who is asked for without it.
-/

namespace DeviceSessions

namespace Text

/-- The address that a text stands for. -/
def address (text : String) : String := lower (trim text)

theorem lower_eq_address_iff {s t : String} :
    lower s = address t ↔ trim s = s ∧ address s = address t := by
  unfold address
  constructor
  · intro same
    have trimmed := congrArg trim same
    rw [← lower_trim, ← lower_trim, trim_trim] at trimmed
    exact ⟨lower_trim_eq_lower_iff.mp (trimmed.trans same.symm), trimmed⟩
  · rintro ⟨bare, same⟩
    rw [← same, bare]

theorem address_eq_of_lower {s t : String} (same : lower s = lower t) : address s = address t := by
  unfold address
  rw [lower_trim, lower_trim, same]

end Text

/-! ### In memory -/

namespace Directory

/-- The directory after these users were put into it. -/
def ofUsers (us : List User) : Directory := us.foldl insert empty

theorem ofUsers_concat (us : List User) (u : User) : ofUsers (us ++ [u]) = (ofUsers us).insert u :=
  List.foldl_concat _ _ _ _

theorem find?_ofUsers {us : List User}
    (distinct : us.Pairwise fun u v => Text.address u.email ≠ Text.address v.email) {q : String}
    {u : User} :
    (ofUsers us).find? q = some u ↔ u ∈ us ∧ Text.lower u.email = Text.address q := by
  induction us using List.reverseRecOn with
  | nil =>
    constructor
    · intro found
      cases found
    · rintro ⟨member, -⟩
      cases member
  | append_singleton us v ih =>
    obtain ⟨earlier, -, apart⟩ := List.pairwise_append.mp distinct
    rw [ofUsers_concat, find?_insert, List.mem_append, List.mem_singleton]
    split
    · rename_i here
      constructor
      · intro found
        cases found
        exact ⟨Or.inr rfl, here.symm⟩
      · rintro ⟨member | rfl, same⟩
        · -- The key of an earlier user would be taken over, but the addresses differ.
          have equal := Text.address_eq_of_lower (same.trans here)
          exact absurd equal (apart u member v List.mem_cons_self)
        · rfl
    · rename_i away
      rw [ih earlier]
      constructor
      · rintro ⟨member, same⟩
        exact ⟨Or.inl member, same⟩
      · rintro ⟨member | rfl, same⟩
        · exact ⟨member, same⟩
        · exact absurd same.symm away

end Directory

/-! ### In the database -/

/-- A user who is to be added, under an identifier and at a time. -/
structure Enrolment where
  account : NewUser
  id : Uuid
  now : Instant
  deriving DecidableEq, Repr

namespace Enrolment

/-- The address that a user is added with. -/
def email (x : Enrolment) : String := x.account.email

/-- The user in memory. -/
def user (x : Enrolment) : User := x.account.activate x.id x.now

/-- The row of the user. -/
def row (x : Enrolment) : User :=
  NewUser.activate { x.account with email := Text.trim x.email } x.id (Tables.clock x.now)

end Enrolment

/-- The directory after these users were added to it. -/
def Directory.enrolled (xs : List Enrolment) : Directory :=
  xs.foldl (fun d x => (d.add x.account x.id x.now).2) .empty

theorem Directory.enrolled_eq (xs : List Enrolment) :
    enrolled xs = ofUsers (xs.map Enrolment.user) := by
  unfold enrolled ofUsers
  rw [List.foldl_map]
  rfl

namespace Database

/-- Adds a user. -/
def enroll (db : Database) (x : Enrolment) : Result User × Database :=
  (Request.createUser x.account x.id x.now).on db

/-- The database after it was asked to add these users. -/
def enrolled (db : Database) (xs : List Enrolment) : Database :=
  xs.foldl (fun db x => (db.enroll x).2) db

/-- Whether a user is added. -/
def admits (db : Database) (x : Enrolment) : Bool :=
  match (db.enroll x).1 with
  | .ok _ => true
  | .error _ => false

/-- Those that are added, of these users. -/
def admitted (db : Database) : List Enrolment → List Enrolment
  | [] => []
  | x :: xs =>
    if db.admits x then x :: admitted (db.enroll x).2 xs else admitted (db.enroll x).2 xs

/-- A database with the rows of these users, of whom no two have one address. -/
structure Holds (db : Database) (xs : List Enrolment) : Prop where
  rows : db.tables.users.values = xs.map Enrolment.row
  distinct : xs.Pairwise fun x y => Text.address x.email ≠ Text.address y.email

theorem enroll_cases (db : Database) (x : Enrolment) :
    db.admits x = false ∧ (db.enroll x).2 = db ∨
      db.admits x = true ∧ db.tables.userByEmail? (Text.trim x.email) = none ∧
        ∃ absent : db.tables.users.get? x.id = none,
          (db.enroll x).2 = { db with tables := { db.tables with
            users := db.tables.users.insert x.id x.row absent } } := by
  have left : Request.Leaves db
      (fun _ t => db.tables.userByEmail? (Text.trim x.email) = none ∧
        ∃ absent : db.tables.users.get? x.id = none,
          t = { db.tables with users := db.tables.users.insert x.id x.row absent })
      (db.enroll x) := by
    refine Request.leaves_statement fun user t done => ?_
    obtain ⟨absent, free, rfl, after⟩ := Tables.createUser_ok done
    exact ⟨free, absent, after⟩
  unfold admits
  generalize db.enroll x = outcome at left
  cases left with
  | failed e => exact Or.inl ⟨rfl, rfl⟩
  | answered holds =>
    obtain ⟨free, absent, rfl⟩ := holds
    exact Or.inr ⟨rfl, free, absent, rfl⟩

theorem Holds.free {db : Database} {xs : List Enrolment} (holds : db.Holds xs) {t : String}
    (free : db.tables.userByEmail? (Text.trim t) = none) :
    ∀ x ∈ xs, Text.address x.email ≠ Text.address t := by
  intro x member same
  unfold Tables.userByEmail? at free
  rw [holds.rows] at free
  have other := List.find?_eq_none.mp free x.row (List.mem_map_of_mem member)
  exact other (decide_eq_true same)

theorem Holds.concat {db : Database} {xs : List Enrolment} (holds : db.Holds xs) (x : Enrolment)
    (free : db.tables.userByEmail? (Text.trim x.email) = none)
    (absent : db.tables.users.get? x.id = none) :
    Holds { db with tables := { db.tables with users := db.tables.users.insert x.id x.row absent } }
      (xs ++ [x]) := by
  constructor
  · have more : (db.tables.users.insert x.id x.row absent).values =
        db.tables.users.values ++ [x.row] := List.map_append
    rw [List.map_append, ← holds.rows]
    exact more
  · refine List.pairwise_append.mpr ⟨holds.distinct, List.pairwise_singleton _ _, ?_⟩
    intro y member z here
    rw [List.mem_singleton] at here
    rw [here]
    exact holds.free free y member

theorem Holds.enrolled {db : Database} {before : List Enrolment} (holds : db.Holds before)
    (xs : List Enrolment) : (db.enrolled xs).Holds (before ++ db.admitted xs) := by
  induction xs generalizing db before with
  | nil =>
    rw [admitted, List.append_nil]
    exact holds
  | cons x xs ih =>
    change ((db.enroll x).2.enrolled xs).Holds _
    unfold admitted
    rcases enroll_cases db x with ⟨refused, same⟩ | ⟨taken, free, absent, after⟩
    · rw [refused, same]
      exact ih holds
    · rw [taken, after]
      have more := ih (holds.concat x free absent)
      rw [List.append_assoc] at more
      exact more

theorem holds_nil {db : Database} (noUsers : db.tables.users = .empty) : db.Holds [] := by
  refine ⟨?_, List.Pairwise.nil⟩
  rw [noUsers]
  rfl

theorem Holds.userByEmail? {db : Database} {xs : List Enrolment} (holds : db.Holds xs) {q : String}
    {u : User} :
    db.tables.userByEmail? q = some u ↔
      ∃ x ∈ xs, u = x.row ∧ Text.address x.email = Text.lower q := by
  have apart : ((xs.map Enrolment.row).map fun u => Text.lower u.email).Nodup := by
    rw [List.map_map]
    exact List.pairwise_map.mpr holds.distinct
  unfold Tables.userByEmail?
  rw [holds.rows, find?_eq_some_iff_of_nodup_map apart, List.mem_map]
  constructor
  · rintro ⟨⟨x, member, rfl⟩, same⟩
    exact ⟨x, member, rfl, same⟩
  · rintro ⟨x, member, rfl, same⟩
    exact ⟨⟨x, member, rfl⟩, same⟩

theorem enrolled_kept (db : Database) (xs : List Enrolment) :
    (db.enrolled xs).faults = db.faults ∧ (db.enrolled xs).tables.schema = db.tables.schema := by
  induction xs generalizing db with
  | nil => exact ⟨rfl, rfl⟩
  | cons x xs ih =>
    obtain ⟨faults, schema⟩ := ih (db.enroll x).2
    change ((db.enroll x).2.enrolled xs).faults = _ ∧ ((db.enroll x).2.enrolled xs).tables.schema = _
    rw [faults, schema]
    rcases enroll_cases db x with ⟨-, same⟩ | ⟨-, -, absent, after⟩
    · rw [same]
      exact ⟨rfl, rfl⟩
    · rw [after]
      exact ⟨rfl, rfl⟩

theorem on_findUser {db : Database} (up : db.faults = []) (ready : 1 ≤ db.tables.schema) {q : String}
    (plain : '\x00' ∉ q.toList) : (Request.findUser q).on db = (.ok (db.tables.userByEmail? q), db) := by
  have done : db.tables.findUser q = .ok (db.tables.userByEmail? q, db.tables) := by
    unfold Tables.findUser Tables.require Tables.storable
    simp [ready, plain]
    rfl
  exact Request.on_send up done

end Database

/-- A row as the database keeps it, with the times of its clock. -/
def User.stored (u : User) : User :=
  { u with createdAt := Tables.clock u.createdAt, updatedAt := Tables.clock u.updatedAt }

theorem Enrolment.row_eq {x : Enrolment} (bare : Text.trim x.email = x.email) :
    x.row = x.user.stored := by
  unfold row
  rw [bare]
  rfl

/-- Whoever is put into the directory in memory is found there under every text that stands for the
same address, if there is no white space around the own; and whoever is added to the database is found
there under every such text without white space around it. Letter case makes no difference. So where
there is no white space around addresses, the two give the same answers. -/
theorem found_under_address {db : Database} (up : db.faults = []) (ready : 1 ≤ db.tables.schema)
    (noUsers : db.tables.users = .empty) (xs : List Enrolment) :
    (∀ us : List User,
      us.Pairwise (fun u v => Text.address u.email ≠ Text.address v.email) → ∀ q u,
        ((Directory.ofUsers us).find? q = some u ↔
          u ∈ us ∧ Text.trim u.email = u.email ∧ Text.address u.email = Text.address q)) ∧
    (∀ q, '\x00' ∉ q.toList → ∀ u,
      (((Request.findUser q).on (db.enrolled xs)).1 = .ok (some u) ↔
        ∃ x ∈ db.admitted xs, u = x.row ∧ Text.trim q = q ∧ Text.address x.email = Text.address q)) ∧
    (∀ s t : String, (Text.trim s).toList.map Text.asciiLower =
      (Text.trim t).toList.map Text.asciiLower → Text.address s = Text.address t) ∧
    (db.admitted xs = xs → (∀ x ∈ xs, Text.trim x.email = x.email) →
      ∀ q, '\x00' ∉ q.toList → Text.trim q = q →
        ((Request.findUser q).on (db.enrolled xs)).1 =
          .ok (((Directory.enrolled xs).find? q).map User.stored)) := by
  have holds := (Database.holds_nil noUsers).enrolled xs
  rw [List.nil_append] at holds
  have kept := db.enrolled_kept xs
  have asked : ∀ q : String, '\x00' ∉ q.toList → ((Request.findUser q).on (db.enrolled xs)).1 =
      .ok ((db.enrolled xs).tables.userByEmail? q) := by
    intro q plain
    rw [Database.on_findUser (kept.1.trans up) (kept.2 ▸ ready) plain]
  have inMemory : ∀ us : List User,
      us.Pairwise (fun u v => Text.address u.email ≠ Text.address v.email) → ∀ q u,
        ((Directory.ofUsers us).find? q = some u ↔
          u ∈ us ∧ Text.trim u.email = u.email ∧ Text.address u.email = Text.address q) := by
    intro us distinct q u
    rw [Directory.find?_ofUsers distinct, Text.lower_eq_address_iff]
  refine ⟨inMemory, ?_, ?_, ?_⟩
  · intro q plain u
    rw [asked q plain, Except.ok.injEq, holds.userByEmail?]
    constructor
    · rintro ⟨x, member, rfl, same⟩
      obtain ⟨trimmed, equal⟩ := Text.lower_eq_address_iff.mp same.symm
      exact ⟨x, member, rfl, trimmed, equal.symm⟩
    · rintro ⟨x, member, rfl, trimmed, same⟩
      exact ⟨x, member, rfl, (Text.lower_eq_address_iff.mpr ⟨trimmed, same.symm⟩).symm⟩
  · intro s t same
    exact Text.lower_eq_of_asciiLower same
  · intro all bare q plain trimmed
    rw [all] at holds
    have distinct : (xs.map Enrolment.user).Pairwise fun u v =>
        Text.address u.email ≠ Text.address v.email := List.pairwise_map.mpr holds.distinct
    have lowered : Text.lower q = Text.address q := Text.lower_eq_address_iff.mpr ⟨trimmed, rfl⟩
    rw [asked q plain, Directory.enrolled_eq]
    cases found : (Directory.ofUsers (xs.map Enrolment.user)).find? q with
    | some u =>
      obtain ⟨member, -, same⟩ := (inMemory _ distinct q u).mp found
      obtain ⟨x, there, rfl⟩ := List.mem_map.mp member
      have row := holds.userByEmail?.mpr ⟨x, there, rfl, same.trans lowered.symm⟩
      rw [row, Enrolment.row_eq (bare x there)]
      rfl
    | none =>
      cases row : (db.enrolled xs).tables.userByEmail? q with
      | none => rfl
      | some u =>
        obtain ⟨x, there, -, same⟩ := holds.userByEmail?.mp row
        have user := (inMemory _ distinct q x.user).mpr
          ⟨List.mem_map_of_mem there, bare x there, same.trans lowered⟩
        rw [found] at user
        cases user

/-- A user without white space around the address. -/
def plainEnrolment : Enrolment :=
  ⟨⟨"ada@example.com", "hash"⟩, ⟨List.replicate 16 9, rfl⟩, .epoch⟩

theorem found_under_address_capitals :
    (Directory.ofUsers [plainEnrolment.user]).find? " ADA@example.com " = some plainEnrolment.user ∧
      ((Request.findUser "ADA@example.com").on (({} : Database).enrolled [plainEnrolment])).1 =
        .ok (some plainEnrolment.row) := by
  have admitted : ({} : Database).admitted [plainEnrolment] = [plainEnrolment] := by decide
  obtain ⟨inMemory, inDatabase, alike, -⟩ :=
    found_under_address (show ({} : Database).faults = [] from rfl) (by decide) rfl [plainEnrolment]
  have bare : Text.trim plainEnrolment.email = plainEnrolment.email := by decide
  have same : Text.address plainEnrolment.email = Text.address " ADA@example.com " :=
    alike _ _ (by decide)
  have same' : Text.address plainEnrolment.email = Text.address "ADA@example.com" :=
    alike _ _ (by decide)
  constructor
  · exact (inMemory _ (List.pairwise_singleton _ _) _ _).mpr ⟨List.mem_cons_self, bare, same⟩
  · refine (inDatabase "ADA@example.com" (by decide) _).mpr ⟨plainEnrolment, ?_, rfl, by decide, same'⟩
    rw [admitted]
    exact List.mem_cons_self

/-- A user with white space in front of the address. -/
def spacedEnrolment : Enrolment :=
  ⟨⟨" ada@example.com", "hash"⟩, ⟨List.replicate 16 9, rfl⟩, .epoch⟩

/-- Who is added with white space in front of the address is not found under that text, neither in
memory nor in the database. -/
theorem lost_under_own_address :
    (Directory.enrolled [spacedEnrolment]).find? spacedEnrolment.email = none ∧
      (({} : Database).enroll spacedEnrolment).1 = .ok spacedEnrolment.row ∧
      ((Request.findUser spacedEnrolment.email).on
        (({} : Database).enroll spacedEnrolment).2).1 = .ok none := by
  refine ⟨?_, ?_, ?_⟩
  · decide
  · rfl
  · rfl

end DeviceSessions
