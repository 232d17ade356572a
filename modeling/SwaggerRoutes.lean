import SwaggerRoutes.Main
import SwaggerRoutes.Api.Encoding
import SwaggerRoutes.Proofs.Api.FirstFault
import SwaggerRoutes.Proofs.Files.Change
import SwaggerRoutes.Proofs.Files.Name
import SwaggerRoutes.Proofs.Files.Below
import SwaggerRoutes.Proofs.Java.Faithful
import SwaggerRoutes.Proofs.Java.Skeleton
import SwaggerRoutes.Proofs.Java.Lines
import SwaggerRoutes.Proofs.Java.Place
import SwaggerRoutes.Proofs.Json.Distinct
import SwaggerRoutes.Proofs.Route.Registration
import SwaggerRoutes.Proofs.Run.Effect
import SwaggerRoutes.Proofs.Run.Placement
import SwaggerRoutes.Proofs.Route.Matching
import SwaggerRoutes.Proofs.Json.Reread
import SwaggerRoutes.Proofs.Run.Inspection
import SwaggerRoutes.Proofs.Api.Agreement
import SwaggerRoutes.Proofs.Api.Inlining
import SwaggerRoutes.Proofs.Api.Reordering
import SwaggerRoutes.Proofs.Java.Reading
import SwaggerRoutes.Proofs.Route.Description
import SwaggerRoutes.Proofs.CommandLine.Layers
import SwaggerRoutes.Proofs.Config.Reread
import SwaggerRoutes.Proofs.Api.Unread
import SwaggerRoutes.Proofs.Route.Chain
import SwaggerRoutes.Proofs.Run.Again
import SwaggerRoutes.Proofs.Java.Imports
import SwaggerRoutes.Proofs.Java.Indentation
import SwaggerRoutes.Proofs.Config.Validation
