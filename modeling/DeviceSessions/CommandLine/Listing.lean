import DeviceSessions.CommandLine.Command
import DeviceSessions.Database.Migrate
import DeviceSessions.Json.Writer
import DeviceSessions.Text.Boxed
import DeviceSessions.Token.Form

/-!
# Listings

How the results of commands are shown: rows as a table or as a JSON array, the claims of a token as
lines or as a JSON object.
-/

namespace DeviceSessions.CommandLine

/-- A column of a listing: its heading, its key in JSON, and what stands in it. -/
structure Column (α : Type) where
  heading : String
  key : String := heading
  text : α → String
  json : α → Json := fun a => Json.ofText (text a)

/-- How rows are shown. -/
abbrev Listing (α : Type) := List (Column α)

namespace Listing

/-- The JSON form of a row. -/
def toJson {α : Type} (l : Listing α) (row : α) : Json :=
  Json.ofFields (l.map fun c => (c.key, c.json row))

/-- The text of rows. -/
def render {α : Type} (l : Listing α) (format : OutputFormat) (rows : List α) : String :=
  match format with
  | .json => Json.pretty (.array (rows.map l.toJson)) ++ "\n"
  | .table =>
    if rows.isEmpty then "(none)\n"
    else Text.boxed (l.map (·.heading)) (rows.map fun row => l.map (·.text row))

end Listing

/-- Date, hour and minute. -/
def minuteText (t : Instant) : String :=
  String.ofList (Rfc3339.dateText t.date ++ ' ' ::
    (Rfc3339.clockText t.secondOfDay false).take 5)

/-- Date, hour, minute and second. -/
def secondText (t : Instant) : String :=
  String.ofList (Rfc3339.dateText t.date ++ ' ' ::
    Rfc3339.clockText t.secondOfDay (1000000000 ≤ t.nanos))

/-- How users are listed. -/
def userListing : Listing User := [
  { heading := "id", text := fun u => u.id.text },
  { heading := "email", text := fun u => u.email },
  { heading := "active", text := fun u => if u.isActive then "✓" else "✗" },
  { heading := "created_at", text := fun u => minuteText u.createdAt }]

/-- How devices are listed. -/
def deviceListing : Listing Device := [
  { heading := "id", text := fun d => d.id },
  { heading := "name", text := fun d => d.name },
  { heading := "type", key := "device_type", text := fun d => d.kind.name },
  { heading := "ip", text := fun d => d.ip },
  { heading := "last_active", text := fun d => secondText d.lastActive }]

/-- How the scripts of the schema are listed. -/
def migrationListing : Listing MigrationStatus := [
  { heading := "version", text := fun m => toString m.version,
    json := fun m => Json.ofInt m.version },
  { heading := "description", text := fun m => m.description },
  { heading := "state", key := "applied",
    text := fun m => if m.applied then "applied" else "pending" }]

/-- A line with a label, which takes sixteen characters. -/
def labelled (label value : String) : String :=
  let label := label ++ ":"
  label ++ String.ofList (List.replicate (16 - label.length) ' ') ++ value ++ "\n"

/-- The text of claims. -/
def renderClaims (format : OutputFormat) (now : Instant) (c : Claims) : String :=
  match format with
  | .json => Json.pretty c.toJson ++ "\n"
  | .table =>
    labelled "Subject" c.subject.text ++ labelled "Type" c.kind.title ++
      labelled "Issuer" c.issuer ++ labelled "Token ID" c.id.text ++
      labelled "Issued at" (Rfc3339.writeOffset c.issuedAt) ++
      labelled "Expires at" (Rfc3339.writeOffset c.expiresAt) ++
      labelled "Remaining (s)" (toString (c.remaining now))

end DeviceSessions.CommandLine
