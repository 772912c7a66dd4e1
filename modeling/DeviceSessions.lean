import DeviceSessions.Main
import DeviceSessions.Device.Form
import DeviceSessions.Session.Form
import DeviceSessions.Settings.Form
import DeviceSessions.User.Form
import DeviceSessions.Proofs.Controller.Ledger
import DeviceSessions.Proofs.Password.RoundTrip
import DeviceSessions.Proofs.Controller.SingleUse
import DeviceSessions.Proofs.Concurrency.Pool
import DeviceSessions.Proofs.Concurrency.Logout
import DeviceSessions.Proofs.Concurrency.Rotation
import DeviceSessions.Proofs.Concurrency.Replay
import DeviceSessions.Proofs.Database.Agreement
import DeviceSessions.Proofs.Controller.FailClosed
import DeviceSessions.Proofs.Concurrency.Overlap
import DeviceSessions.Proofs.Session.Part
import DeviceSessions.Proofs.Controller.Likeness
import DeviceSessions.Proofs.Controller.Separation
import DeviceSessions.Proofs.Controller.Bearer
import DeviceSessions.Proofs.Controller.Disclosure
import DeviceSessions.Proofs.Controller.FailedLogin
import DeviceSessions.Proofs.Token.Verdict
import DeviceSessions.Proofs.Session.Rows
import DeviceSessions.Proofs.Forms
import DeviceSessions.Proofs.Settings.Texts
import DeviceSessions.Proofs.Settings.Secrets
import DeviceSessions.Proofs.Device.Identity
import DeviceSessions.Proofs.CommandLine.Frame
import DeviceSessions.Proofs.Token.Spelling
import DeviceSessions.Proofs.Controller.Naming
import DeviceSessions.Proofs.Settings.Lifetimes
import DeviceSessions.Proofs.User.Address
import DeviceSessions.Proofs.Session.Revocation
import DeviceSessions.Proofs.Controller.Recency
import DeviceSessions.Proofs.User.Uniqueness
import DeviceSessions.Proofs.Device.UserAgent
import DeviceSessions.Proofs.Error
import DeviceSessions.Proofs.Token.Times
import DeviceSessions.Proofs.Settings.Precedence
