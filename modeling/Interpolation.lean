import Interpolation.Configuration
import Interpolation.Outline
import Interpolation.Proofs.Canonical
import Interpolation.Proofs.Condensed
import Interpolation.Proofs.DirectPass
import Interpolation.Proofs.Entries
import Interpolation.Proofs.Groups
import Interpolation.Proofs.Image
import Interpolation.Proofs.Interchange
import Interpolation.Proofs.Json.Integers
import Interpolation.Proofs.Json.Printed
import Interpolation.Proofs.Json.Tables
import Interpolation.Proofs.Json.Written
import Interpolation.Proofs.Lookups
import Interpolation.Proofs.Observation
import Interpolation.Proofs.Room
import Interpolation.Proofs.Seam
import Interpolation.Proofs.Session.History
import Interpolation.Proofs.Session.Locality
import Interpolation.Proofs.Session.WellFormed
import Interpolation.Proofs.Staging
import Interpolation.Proofs.Trace
import Interpolation.Proofs.Viability
import Interpolation.Session
import Interpolation.Table.Recipe
import Interpolation.Trace
import Interpolation.Proofs.Json.Decoding
import Interpolation.Proofs.Symbols
import Interpolation.Proofs.Routes
