import DeviceSessions.Proofs.User.Address

/-!
# Accounts are unique by address

However users are added and let in or kept out, no two rows have one address up to letter case. So an
address is free or taken by one row, and that row is the one that is found under it.
-/

namespace DeviceSessions

theorem Text.mem_trim {c : Char} {text : String} (member : c ∈ (trim text).toList) :
    c ∈ text.toList := by
  obtain ⟨front, back, whole, -, -⟩ := trimList_around text.toList
  rw [trim, String.toList_ofList] at member
  rw [whole]
  exact List.mem_append_right _ (List.mem_append_left _ member)

/-- Neither text of a new user has the null character. -/
structure NewUser.Plain (n : NewUser) : Prop where
  email : '\x00' ∉ n.email.toList
  passwordHash : '\x00' ∉ n.passwordHash.toList

namespace Tables

variable {t : Tables} {n : NewUser} {id : Uuid} {now : Instant}

theorem userByEmail?_isSome_iff {email : String} :
    (t.userByEmail? email).isSome ↔ ∃ u ∈ t.users.values, Text.lower u.email = Text.lower email := by
  unfold userByEmail?
  rw [List.find?_isSome]
  simp only [decide_eq_true_eq]

/-- The address decides whether a user is added under a new identifier. -/
theorem createUser_eq (ready : 1 ≤ t.schema) (plain : n.Plain) (absent : t.users.get? id = none) :
    t.createUser n id now =
      if (t.userByEmail? n.email).isSome then .error .emailTaken
      else .ok (n.activate id (clock now),
        { t with users := t.users.insert id (n.activate id (clock now)) absent }) := by
  have required : t.require 1 = .ok () := if_pos ready
  have texts : storable [n.email, n.passwordHash] = .ok () :=
    storable_ok (by simp [plain.email, plain.passwordHash])
  have unknown : t.users.contains id = false := by rw [Keyed.contains, absent]; rfl
  have inserted : ∀ u, t.users.put id u = t.users.insert id u absent := fun u => dif_pos absent
  unfold createUser
  simp only [required, texts, unknown, inserted]
  cases t.userByEmail? n.email with
  | none => rfl
  | some u => rfl

end Tables

/-- A request that changes accounts. -/
inductive AccountCall where
  | create (x : Enrolment)
  | setActive (id : Uuid) (active : Bool) (now : Instant)
  deriving DecidableEq, Repr

namespace Database

/-- The database after a request about accounts. -/
def told (db : Database) : AccountCall → Database
  | .create x => (db.enroll x).2
  | .setActive id active now => ((Request.setActive id active now).on db).2

/-- The database after requests about accounts. -/
def afterCalls (db : Database) (calls : List AccountCall) : Database := calls.foldl told db

/-- The rows of users. -/
def rows (db : Database) : List User := db.tables.users.values

/-- The database with other rows of users. -/
def withUsers (db : Database) (users : Keyed Uuid User) : Database :=
  { db with tables := { db.tables with users } }

/-- A database that answers, with every row under its own identifier and no two under one address. -/
structure Accounts (db : Database) : Prop where
  up : db.faults = []
  ready : 1 ≤ db.tables.schema
  named : ∀ {id u}, db.tables.users.get? id = some u → u.id = id
  distinct : (db.rows.map fun u => Text.lower u.email).Nodup

variable {db : Database} {x : Enrolment} {id : Uuid} {now : Instant} {active : Bool}

theorem accounts_empty (up : db.faults = []) (ready : 1 ≤ db.tables.schema)
    (noUsers : db.tables.users = .empty) : db.Accounts where
  up := up
  ready := ready
  named found := by
    rw [noUsers] at found
    cases found
  distinct := by
    unfold rows
    rw [noUsers]
    exact List.nodup_nil

theorem Accounts.mem_rows (accounts : db.Accounts) {u : User} :
    u ∈ db.rows ↔ db.tables.users.get? u.id = some u := by
  unfold rows
  rw [Keyed.mem_values_iff]
  constructor
  · rintro ⟨id, found⟩
    rwa [accounts.named found]
  · exact fun found => ⟨_, found⟩

theorem Accounts.contains_iff (accounts : db.Accounts) :
    db.tables.users.contains id = true ↔ ∃ u ∈ db.rows, u.id = id := by
  rw [Keyed.contains, Option.isSome_iff_exists]
  constructor
  · rintro ⟨u, found⟩
    obtain rfl := accounts.named found
    exact ⟨u, accounts.mem_rows.mpr found, rfl⟩
  · rintro ⟨u, member, rfl⟩
    exact ⟨u, accounts.mem_rows.mp member⟩

theorem Accounts.absent_of_fresh (accounts : db.Accounts) (fresh : ∀ u ∈ db.rows, u.id ≠ id) :
    db.tables.users.get? id = none := by
  rw [← Option.not_isSome_iff_eq_none]
  intro present
  obtain ⟨u, member, same⟩ := accounts.contains_iff.mp present
  exact fresh u member same

/-! ### Adding a user -/

theorem Accounts.insert (accounts : db.Accounts) {u : User}
    (absent : db.tables.users.get? u.id = none) (free : db.tables.userByEmail? u.email = none) :
    (db.withUsers (db.tables.users.insert u.id u absent)).Accounts where
  up := accounts.up
  ready := accounts.ready
  named {id v} found := by
    have known := (Keyed.get?_insert _ _ _ _ absent).symm.trans found
    split at known
    · rename_i here
      cases known
      exact here.symm
    · exact accounts.named known
  distinct := by
    have rows : (db.tables.users.insert u.id u absent).values = db.tables.users.values ++ [u] :=
      List.map_append
    change ((db.tables.users.insert u.id u absent).values.map _).Nodup
    rw [rows, List.map_append, List.nodup_append]
    refine ⟨accounts.distinct, List.nodup_singleton _, ?_⟩
    rintro _ member _ new rfl
    obtain ⟨v, there, same⟩ := List.mem_map.mp member
    have taken := Tables.userByEmail?_isSome_iff.mpr ⟨v, there, same.trans (List.mem_singleton.mp new)⟩
    rw [free] at taken
    cases taken

theorem Accounts.enroll (accounts : db.Accounts) (x : Enrolment) : (db.enroll x).2.Accounts := by
  rcases enroll_cases db x with ⟨-, same⟩ | ⟨-, free, absent, after⟩
  · rw [same]
    exact accounts
  · rw [after]
    exact accounts.insert (u := x.row) absent free

theorem trim_plain {n : NewUser} (plain : n.Plain) :
    NewUser.Plain { n with email := Text.trim n.email } :=
  ⟨fun member => plain.email (Text.mem_trim member), plain.passwordHash⟩

theorem Accounts.enroll_taken (accounts : db.Accounts) (plain : x.account.Plain)
    (absent : db.tables.users.get? x.id = none)
    (taken : ∃ u ∈ db.rows, Text.lower u.email = Text.address x.email) :
    db.enroll x = (.error ⟨.validation, "Email already in use", false⟩, db) := by
  have refused : db.tables.createUser { x.account with email := Text.trim x.account.email } x.id
      x.now = .error .emailTaken := by
    rw [Tables.createUser_eq accounts.ready (trim_plain plain) absent]
    exact if_pos (Tables.userByEmail?_isSome_iff.mpr taken)
  unfold Database.enroll Request.createUser
  rw [Request.on_statement accounts.up, refused]
  rfl

theorem Accounts.enroll_free (accounts : db.Accounts) (plain : x.account.Plain)
    (absent : db.tables.users.get? x.id = none)
    (free : ¬∃ u ∈ db.rows, Text.lower u.email = Text.address x.email) :
    db.enroll x = (.ok x.row, db.withUsers (db.tables.users.insert x.id x.row absent)) := by
  have added : db.tables.createUser { x.account with email := Text.trim x.account.email } x.id
      x.now = .ok (x.row, { db.tables with users := db.tables.users.insert x.id x.row absent }) := by
    rw [Tables.createUser_eq accounts.ready (trim_plain plain) absent]
    exact if_neg fun found => free (Tables.userByEmail?_isSome_iff.mp found)
  unfold Database.enroll Request.createUser
  rw [Request.on_statement accounts.up, added]
  rfl

/-! ### Letting a user in or keeping one out -/

theorem Accounts.on_setActive (accounts : db.Accounts) (id : Uuid) (active : Bool) (now : Instant) :
    (Request.setActive id active now).on db =
      (.ok (db.tables.users.contains id), db.withUsers (db.tables.users.update id fun u =>
        { u with isActive := active, updatedAt := Tables.clock now })) := by
  refine Request.on_send accounts.up ?_
  unfold Tables.setActive Tables.require
  rw [if_pos accounts.ready]
  rfl

/-- A change under an identifier changes the row that has it. -/
theorem Accounts.values_update (accounts : db.Accounts) (id : Uuid) (f : User → User) :
    (db.tables.users.update id f).values = db.rows.map fun u => if u.id = id then f u else u := by
  unfold rows
  simp only [Keyed.update, Keyed.mapValues, Keyed.values, List.map_map]
  apply List.map_congr_left
  rintro ⟨k, u⟩ member
  have own : u.id = k := accounts.named (Keyed.get?_eq_some_iff.mpr member)
  simp [own]

theorem Accounts.update (accounts : db.Accounts) (id : Uuid) {f : User → User}
    (kept : ∀ u, (f u).id = u.id ∧ (f u).email = u.email) :
    (db.withUsers (db.tables.users.update id f)).Accounts where
  up := accounts.up
  ready := accounts.ready
  named {id' v} found := by
    have known := (Keyed.get?_update _ _ _ _).symm.trans found
    split at known
    · obtain ⟨u, before, rfl⟩ := Option.map_eq_some_iff.mp known
      exact (kept u).1.trans (accounts.named before)
    · exact accounts.named known
  distinct := by
    have same : (db.rows.map fun u => if u.id = id then f u else u).map (fun u => Text.lower u.email) =
        db.rows.map fun u => Text.lower u.email := by
      rw [List.map_map]
      apply List.map_congr_left
      intro u _
      by_cases here : u.id = id <;> simp [here, (kept u).2]
    change ((db.tables.users.update id f).values.map _).Nodup
    rw [accounts.values_update, same]
    exact accounts.distinct

theorem Accounts.afterCalls (accounts : db.Accounts) (calls : List AccountCall) :
    (db.afterCalls calls).Accounts := by
  induction calls generalizing db with
  | nil => exact accounts
  | cons call calls ih =>
    refine ih ?_
    cases call with
    | create x => exact accounts.enroll x
    | setActive id active now =>
      change ((Request.setActive id active now).on db).2.Accounts
      rw [accounts.on_setActive]
      exact accounts.update id fun u => ⟨rfl, rfl⟩

/-- A table of accounts in which no two rows have one address up to letter case, with requests that
are answered from it and change nothing but what they are about. -/
structure Unique (db : Database) : Prop where
  distinct : (db.rows.map fun u => Text.lower u.email).Nodup
  taken : ∀ x : Enrolment, x.account.Plain → (∀ u ∈ db.rows, u.id ≠ x.id) →
    (db.enroll x = (.error ⟨.validation, "Email already in use", false⟩, db) ↔
      ∃ u ∈ db.rows, Text.lower u.email = Text.lower (Text.trim x.email))
  added : ∀ x : Enrolment, x.account.Plain → (∀ u ∈ db.rows, u.id ≠ x.id) →
    (¬∃ u ∈ db.rows, Text.lower u.email = Text.lower (Text.trim x.email)) →
    ∃ row users, db.enroll x = (.ok row, db.withUsers users) ∧ users.values = db.rows ++ [row] ∧
      row = ⟨x.id, Text.trim x.email, x.account.passwordHash, true, Tables.clock x.now,
        Tables.clock x.now⟩
  found : ∀ q : String, '\x00' ∉ q.toList →
    ∃ found, (Request.findUser q).on db = (.ok found, db) ∧
      ∀ u, found = some u ↔ u ∈ db.rows ∧ Text.lower u.email = Text.lower q
  activated : ∀ id active now,
    ∃ known users, (Request.setActive id active now).on db = (.ok known, db.withUsers users) ∧
      (known = true ↔ ∃ u ∈ db.rows, u.id = id) ∧
      users.values = db.rows.map fun u =>
        if u.id = id then { u with isActive := active, updatedAt := Tables.clock now } else u

theorem Accounts.unique (accounts : db.Accounts) : db.Unique where
  distinct := accounts.distinct
  taken x plain fresh := by
    have absent := accounts.absent_of_fresh fresh
    constructor
    · intro refused
      by_contra free
      rw [accounts.enroll_free plain absent free] at refused
      cases refused
    · exact accounts.enroll_taken plain absent
  added x plain fresh free := by
    have absent := accounts.absent_of_fresh fresh
    exact ⟨_, _, accounts.enroll_free plain absent free, List.map_append, rfl⟩
  found q plain :=
    ⟨_, on_findUser accounts.up accounts.ready plain, fun u =>
      find?_eq_some_iff_of_nodup_map accounts.distinct⟩
  activated id active now :=
    ⟨_, _, accounts.on_setActive id active now, accounts.contains_iff, accounts.values_update id _⟩

/-- After any requests that add users or let them in or keep them out, from an empty table on, the
accounts are unique by address: no two rows have one up to letter case, a user is added unless a row
has the address already, the row that is found under an address is the one that has it, and letting a
user in or keeping one out changes that user's row only. -/
theorem accounts_unique {db : Database} (up : db.faults = []) (ready : 1 ≤ db.tables.schema)
    (noUsers : db.tables.users = .empty) (calls : List AccountCall) : (db.afterCalls calls).Unique :=
  ((accounts_empty up ready noUsers).afterCalls calls).unique

/-- An address that is taken in small letters is taken in capitals, also where its user is kept out. -/
theorem accounts_unique_capitals :
    let db := ({} : Database).afterCalls
      [.create plainEnrolment, .setActive plainEnrolment.id false (.ofSecs 1)]
    db.enroll ⟨⟨" ADA@example.com ", "other"⟩, ⟨List.replicate 16 8, rfl⟩, .ofSecs 2⟩ =
      (.error ⟨.validation, "Email already in use", false⟩, db) := by
  have unique := accounts_unique (show ({} : Database).faults = [] from rfl) (by decide) rfl
    [.create plainEnrolment, .setActive plainEnrolment.id false (.ofSecs 1)]
  exact (unique.taken _ ⟨by decide, by decide⟩ (by decide)).mpr (by decide +kernel)

end Database

end DeviceSessions
