import EventaApi.Library.Table
import EventaApi.Library.Tally
import EventaApi.Library.Run
import EventaApi.Library.Ranking
import EventaApi.Library.Pool
import EventaApi.Library.Calendar
import EventaApi.Library.Shares
import EventaApi.Library.Versions
import EventaApi.Library.Rounding
import EventaApi.Library.Pages
import EventaApi.Library.Utf16
import EventaApi.Library.ContentLines
import EventaApi.Library.Grouping
import EventaApi.Library.Regrouping
import EventaApi.Library.Csv
import EventaApi.Library.CivilDays
import EventaApi.Library.Joins
import EventaApi.Source.Schema
import EventaApi.Source.CheckoutRules
import EventaApi.Source.RegistrationDecision
import EventaApi.Source.SeatHolds
import EventaApi.Source.PlaceOrder
import EventaApi.Source.Settlement
import EventaApi.Source.Waitlist
import EventaApi.Source.CheckIn
import EventaApi.Source.Payments
import EventaApi.Source.Transactions
import EventaApi.Source.PaymentFlows
import EventaApi.Source.Invoices
import EventaApi.Source.Discounts
import EventaApi.Source.Confirm
import EventaApi.Source.Promotions
import EventaApi.Source.JoinWaitlist
import EventaApi.Source.ApprovalFlows
import EventaApi.Source.Payouts
import EventaApi.Source.TaxPeriods
import EventaApi.Source.Identity
import EventaApi.Source.Passwords
import EventaApi.Source.TwoFactor
import EventaApi.Source.Access
import EventaApi.Source.ResendThrottle
import EventaApi.Source.Meetings
import EventaApi.Source.Sessions
import EventaApi.Source.Events
import EventaApi.Source.Surveys
import EventaApi.Source.TicketRules
import EventaApi.Source.EventSeating
import EventaApi.Source.SeatMapWrites
import EventaApi.Source.Ticketing
import EventaApi.Source.Pricing
import EventaApi.Source.SurveyResponses
import EventaApi.Source.InvoiceNumbers
import EventaApi.Source.CalendarFile
import EventaApi.Source.NotificationGrouping
import EventaApi.Source.Base32
import EventaApi.Source.Csv
import EventaApi.Source.ReportPeriod
import EventaApi.Source.RevenueTrend
import EventaApi.Source.InvoiceLedger
import EventaApi.Source.FeedbackReach
import EventaApi.Source.IncomeReport
import EventaApi.Guarantees.References
import EventaApi.Guarantees.OrderHistory
import EventaApi.Guarantees.Opening
import EventaApi.Guarantees.PaymentSteps
import EventaApi.Guarantees.MoneyReferences
import EventaApi.Guarantees.LedgerForward
import EventaApi.Guarantees.RefundOnce
import EventaApi.Guarantees.RefundAtomic
import EventaApi.Guarantees.Deliveries
import EventaApi.Guarantees.MoneyCustody
import EventaApi.Guarantees.NoMoneyStranded
import EventaApi.Guarantees.StockAccounting
import EventaApi.Guarantees.HoldPromises
import EventaApi.Guarantees.HoldIsolation
import EventaApi.Guarantees.Decisions
import EventaApi.Guarantees.SeatCustody
import EventaApi.Guarantees.Seating
import EventaApi.Guarantees.DecisionSeats
import EventaApi.Guarantees.VoidTickets
import EventaApi.Guarantees.DoorLedger
import EventaApi.Guarantees.SuccessEvents
import EventaApi.Guarantees.FrozenCodes
import EventaApi.Guarantees.CodeScopes
import EventaApi.Guarantees.RepeatedConfirm
import EventaApi.Guarantees.OnePlace
import EventaApi.Guarantees.DecisionSteps
import EventaApi.Guarantees.ConfirmedPaid
import EventaApi.Guarantees.FailedDecisions
import EventaApi.Guarantees.WaitlistPlaces
import EventaApi.Guarantees.WaitlistOrder
import EventaApi.Guarantees.PayoutBalances
import EventaApi.Guarantees.PayoutRetries
import EventaApi.Guarantees.ResetLinks
import EventaApi.Guarantees.TwoFactorState
import EventaApi.Guarantees.Governance
import EventaApi.Guarantees.Removal
import EventaApi.Guarantees.Escalation
import EventaApi.Guarantees.InvoiceMirror
import EventaApi.Guarantees.MonthlyTakings
import EventaApi.Guarantees.FiledPeriods
import EventaApi.Guarantees.ResendLimits
import EventaApi.Guarantees.WithdrawnMeetings
import EventaApi.Guarantees.ErasableTypes
import EventaApi.Guarantees.SurveyEdits
import EventaApi.Guarantees.SurveyFigures
import EventaApi.Guarantees.RoomBookings
import EventaApi.Guarantees.EventLifecycle
import EventaApi.Guarantees.SeatMapSaves
import EventaApi.Guarantees.TicketSteps
import EventaApi.Guarantees.TicketForms
import EventaApi.Guarantees.TicketEdits
import EventaApi.Guarantees.PriceBalance
import EventaApi.Guarantees.OwnCodes
import EventaApi.Guarantees.ResponseLists
import EventaApi.Guarantees.InvoiceNumbers
import EventaApi.Guarantees.CalendarText
import EventaApi.Guarantees.SellingRules
import EventaApi.Guarantees.SeatMapLayouts
import EventaApi.Guarantees.LoginLimits
import EventaApi.Guarantees.ClaimedLinks
import EventaApi.Guarantees.PhoneNumbers
import EventaApi.Guarantees.FeedGroups
import EventaApi.Guarantees.ThaiMobiles
import EventaApi.Guarantees.SeedText
import EventaApi.Guarantees.ExportedTables
import EventaApi.Guarantees.DayTexts
import EventaApi.Guarantees.ReportWindows
import EventaApi.Guarantees.TrendBuckets
import EventaApi.Guarantees.InvoiceAges
import EventaApi.Guarantees.Completion
import EventaApi.Guarantees.IncomeFigures
import EventaApi.Source.SignIn
import EventaApi.Guarantees.SignIns
import EventaApi.Guarantees.SignOuts
import EventaApi.Source.CalendarConnection
import EventaApi.Guarantees.CalendarConnects
import EventaApi.Guarantees.StateTexts
import EventaApi.Source.AttendeeContact
import EventaApi.Guarantees.AttendeeContacts
import EventaApi.Library.Decimals
import EventaApi.Source.ImageUploads
import EventaApi.Guarantees.ServedImages
import EventaApi.Source.NotificationFeed
import EventaApi.Library.Newest
import EventaApi.Guarantees.NotificationFeeds
import EventaApi.Source.Announcements
import EventaApi.Guarantees.AnnouncementSends
import EventaApi.Source.Invitations
import EventaApi.Guarantees.InviteSpacing
import EventaApi.Source.Migrations
import EventaApi.Guarantees.MigrationOrder
