import SalonBooking.Booking.Click
import SalonBooking.Main
import SalonBooking.Proofs.Booking.Consistent
import SalonBooking.Proofs.Page.Constants
import SalonBooking.Service.Answer
import SalonBooking.Proofs.Form.Shape
import SalonBooking.Proofs.Booking.Posted
import SalonBooking.Proofs.Publish.Bucket
import SalonBooking.Proofs.Storage.FileTree
import SalonBooking.Proofs.Text.Lines
import SalonBooking.Proofs.Publish.Directory
import SalonBooking.Proofs.Publish.Isolation
import SalonBooking.Proofs.Publish.Containment
import SalonBooking.Proofs.Booking.Relevance
import SalonBooking.Proofs.Booking.MessageReader
import SalonBooking.Proofs.Availability.Rows
import SalonBooking.Proofs.Availability.Horizon
import SalonBooking.Proofs.Availability.Instant
import SalonBooking.Proofs.Availability.Interval
import SalonBooking.Proofs.Availability.Week
import SalonBooking.Proofs.Availability.Taken
import SalonBooking.Proofs.Booking.Delivered
import SalonBooking.Proofs.Page.Controls
import SalonBooking.Proofs.Booking.SideBySide
import SalonBooking.Proofs.Booking.Undo
import SalonBooking.Proofs.Booking.Totals
import SalonBooking.Proofs.Booking.Reordered
import SalonBooking.Proofs.Page.Buttons
import SalonBooking.Proofs.Page.PriceText
import SalonBooking.Proofs.Page.Prices
import SalonBooking.Proofs.Form.Carriers
import SalonBooking.Proofs.Form.Refused
import SalonBooking.Proofs.Page.Generated
import SalonBooking.Proofs.Form.MenuIds
import SalonBooking.Proofs.Page.Carried
import SalonBooking.Proofs.Page.Hidden
import SalonBooking.Proofs.Publish.Failures
import SalonBooking.Proofs.Booking.Frame
import SalonBooking.Proofs.Booking.Received
import SalonBooking.Proofs.Service.Preview
import SalonBooking.Proofs.Data.Parts
import SalonBooking.Proofs.Booking.Charged
import SalonBooking.Proofs.Page.Ids
import SalonBooking.Proofs.Markup.MisplacedRaw
import SalonBooking.Proofs.Page.Actions
import SalonBooking.Proofs.Form.Entries
import SalonBooking.Proofs.Form.OwnDetails
import SalonBooking.Proofs.Json.Embedding
import SalonBooking.Proofs.Calendar.ClockText
import SalonBooking.Proofs.Availability.EvenTimes
import SalonBooking.Proofs.Form.Amounts
