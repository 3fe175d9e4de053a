import Coursework.Api.Body
import Coursework.Api.Endpoint
import Coursework.Api.Failure
import Coursework.Api.Sent
import Coursework.Html.Reader
import Coursework.Html.Template
import Coursework.Json.Reader
import Coursework.Proofs.ActionEffects
import Coursework.Proofs.Approvals
import Coursework.Proofs.ApprovedCells
import Coursework.Proofs.AssignmentColumns
import Coursework.Proofs.BackendAddresses
import Coursework.Proofs.BackendUrls
import Coursework.Proofs.CoursePaths
import Coursework.Proofs.Decimals
import Coursework.Proofs.DeclaredFields
import Coursework.Proofs.DocumentRoundTrip
import Coursework.Proofs.DraftEdits
import Coursework.Proofs.DraftParity
import Coursework.Proofs.EndpointPaths
import Coursework.Proofs.ExecTimes
import Coursework.Proofs.GroupLinks
import Coursework.Proofs.GroupRows
import Coursework.Proofs.HiddenReviews
import Coursework.Proofs.LabViews
import Coursework.Proofs.LogLines
import Coursework.Proofs.MemberOrder
import Coursework.Proofs.MenuAccordion
import Coursework.Proofs.MenuLinks
import Coursework.Proofs.NameSearch
import Coursework.Proofs.OwnStatus
import Coursework.Proofs.OwnWork
import Coursework.Proofs.PrintedMarkup
import Coursework.Proofs.RecordFields
import Coursework.Proofs.RecordForms
import Coursework.Proofs.ReleaseMarks
import Coursework.Proofs.RequestBodies
import Coursework.Proofs.ReviewToggles
import Coursework.Proofs.ReviewUpdates
import Coursework.Proofs.RowOrder
import Coursework.Proofs.SelectedSubmission
import Coursework.Proofs.SettingNumbers
import Coursework.Proofs.ShortestDecimals
import Coursework.Proofs.ShownTimes
import Coursework.Proofs.ViewMarkup
import Coursework.Proofs.WrittenScalars
import Coursework.Screen.View
import Coursework.Server.Router
import Coursework.Server.Settings
import Coursework.Server.Target
import Coursework.Wire.DocumentType
import Coursework.Wire.Request
import Coursework.Wire.Store
