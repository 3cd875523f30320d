import ImageGateway.Http.Exchange
import ImageGateway.Main
import ImageGateway.Shell.Host
import ImageGateway.Proofs.Pool.Steps
import ImageGateway.Proofs.Processing
import ImageGateway.Proofs.Pool.Tickets
import ImageGateway.Proofs.Uploads
import ImageGateway.Proofs.Http.Service
import ImageGateway.Proofs.Http.Exchange
import ImageGateway.Proofs.Http.Endpoints
import ImageGateway.Proofs.Files.Directories
import ImageGateway.Proofs.Files.Growth
import ImageGateway.Proofs.Http.Traffic
import ImageGateway.Proofs.Http.Upload
import ImageGateway.Proofs.Http.Isolation
import ImageGateway.Proofs.RequestJson
import ImageGateway.Proofs.Http.Delivery
import ImageGateway.Proofs.Http.Confinement
import ImageGateway.Proofs.Http.Classification
import ImageGateway.Proofs.CommandLine
import ImageGateway.Proofs.Metrics
import ImageGateway.Proofs.Output
import ImageGateway.Proofs.Http.Counting
import ImageGateway.Proofs.OutputPath
import ImageGateway.Proofs.Validation
import ImageGateway.Proofs.Http.Summary
import ImageGateway.Proofs.Formats
import ImageGateway.Proofs.Http.BodyLimit
import ImageGateway.Proofs.Http.Options
import ImageGateway.Proofs.RequestMembers
import ImageGateway.Proofs.UploadHistory
import ImageGateway.Proofs.Path.Absolute
import ImageGateway.Proofs.Program
import ImageGateway.Proofs.Toml.Keys
import ImageGateway.Proofs.Config
import ImageGateway.Proofs.Files.Elsewhere
import ImageGateway.Proofs.ConfigFile
