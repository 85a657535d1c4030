import RouteIntake.Session.Tables
import RouteIntake.Session.Parameters
import RouteIntake.Session.Searches
import RouteIntake.Profile.Given
import RouteIntake.Service.App
import RouteIntake.Service.Phrase
import RouteIntake.Document.Writer
import RouteIntake.Settings.Environment
import RouteIntake.Settings.Sources
import RouteIntake.Settings.Startup
import RouteIntake.Settings.LogLevels
import RouteIntake.Proofs.Service.Conversion
import RouteIntake.Proofs.Restriction.Image
import RouteIntake.Proofs.Restriction.Unknown
import RouteIntake.Proofs.Restriction.Vehicle
import RouteIntake.Proofs.Weighting.Partition
import RouteIntake.Proofs.Conversion.Bounds
import RouteIntake.Proofs.Conversion.Parts
import RouteIntake.Proofs.Area.Collection
import RouteIntake.Proofs.Area.Reading
import RouteIntake.Proofs.Area.Rendering
import RouteIntake.Proofs.Conversion.Relaxed
import RouteIntake.Proofs.Service.Codes
import RouteIntake.Proofs.Service.Correlation
import RouteIntake.Proofs.Service.Disclosure
import RouteIntake.Proofs.Service.Grounds
import RouteIntake.Proofs.Service.Presentation
import RouteIntake.Proofs.Service.Fields
import RouteIntake.Proofs.Feature.Union
import RouteIntake.Proofs.Weighting.Independence
import RouteIntake.Proofs.Request.Body
import RouteIntake.Proofs.Feature.Validity
import RouteIntake.Proofs.Service.Sanitized
import RouteIntake.Proofs.Service.Transparency
