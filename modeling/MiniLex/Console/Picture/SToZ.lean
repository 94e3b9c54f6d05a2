import MiniLex.Text.Basic

/-!
Names of pictures from s to z, with the characters that each name stands for.
-/

namespace MiniLex.Picture

def namesS : List (String × String) :=
  [("sa", "🈂"), ("sad_but_relieved_face", "😥"), ("safety_pin", "🧷"), ("safety_vest", "🦺"),
   ("sagittarius", "♐"), ("sailboat", "⛵"), ("sake", "🍶"), ("salt", "🧂"), ("samoa", "🇼🇸"),
   ("san_marino", "🇸🇲"), ("sandal", "👡"), ("sandwich", "🥪"), ("santa", "🎅"), ("santa_claus", "🎅"),
   ("santa_claus_dark_skin_tone", "🎅🏿"), ("santa_claus_light_skin_tone", "🎅🏻"),
   ("santa_claus_medium-dark_skin_tone", "🎅🏾"), ("santa_claus_medium-light_skin_tone", "🎅🏼"),
   ("santa_claus_medium_skin_tone", "🎅🏽"), ("sari", "🥻"), ("satellite", "📡"),
   ("satellite_antenna", "📡"), ("satisfied", "😆"), ("saudi_arabia", "🇸🇦"), ("sauropod", "🦕"),
   ("saxophone", "🎷"), ("scales", "⚖"), ("scarf", "🧣"), ("school", "🏫"), ("school_backpack", "🎒"),
   ("school_satchel", "🎒"), ("scissors", "✂"), ("scorpio", "♏"), ("scorpion", "🦂"),
   ("scorpius", "♏"), ("scotland", "🏴󠁧󠁢󠁳󠁣󠁴󠁿"), ("scream", "😱"), ("scream_cat", "🙀"),
   ("scroll", "📜"), ("seat", "💺"), ("secret", "㊙"), ("see-no-evil_monkey", "🙈"),
   ("see_no_evil", "🙈"), ("seedling", "🌱"), ("selfie", "🤳"), ("selfie_dark_skin_tone", "🤳🏿"),
   ("selfie_light_skin_tone", "🤳🏻"), ("selfie_medium-dark_skin_tone", "🤳🏾"),
   ("selfie_medium-light_skin_tone", "🤳🏼"), ("selfie_medium_skin_tone", "🤳🏽"), ("senegal", "🇸🇳"),
   ("serbia", "🇷🇸"), ("service_dog", "🐕\u200D🦺"), ("seven", "7\uFE0F\u20E3"), ("seven-thirty", "🕢"),
   ("seven_o’clock", "🕖"), ("seychelles", "🇸🇨"), ("shallow_pan_of_food", "🥘"), ("shamrock", "☘"),
   ("shark", "🦈"), ("shaved_ice", "🍧"), ("sheaf_of_rice", "🌾"), ("sheep", "🐑"), ("shell", "🐚"),
   ("shield", "🛡"), ("shinto_shrine", "⛩"), ("ship", "🚢"), ("shirt", "👕"), ("shit", "💩"),
   ("shoe", "👞"), ("shooting_star", "🌠"), ("shopping_bags", "🛍"), ("shopping_cart", "🛒"),
   ("shortcake", "🍰"), ("shorts", "🩳"), ("shower", "🚿"), ("shrimp", "🦐"),
   ("shuffle_tracks_button", "🔀"), ("shushing_face", "🤫"), ("sierra_leone", "🇸🇱"),
   ("sign_of_the_horns", "🤘"), ("sign_of_the_horns_dark_skin_tone", "🤘🏿"),
   ("sign_of_the_horns_light_skin_tone", "🤘🏻"), ("sign_of_the_horns_medium-dark_skin_tone", "🤘🏾"),
   ("sign_of_the_horns_medium-light_skin_tone", "🤘🏼"), ("sign_of_the_horns_medium_skin_tone", "🤘🏽"),
   ("signal_strength", "📶"), ("singapore", "🇸🇬"), ("sint_maarten", "🇸🇽"), ("six", "6\uFE0F\u20E3"),
   ("six-thirty", "🕡"), ("six_o’clock", "🕕"), ("six_pointed_star", "🔯"), ("skateboard", "🛹"),
   ("ski", "🎿"), ("skier", "⛷"), ("skis", "🎿"), ("skull", "💀"), ("skull_and_crossbones", "☠"),
   ("skunk", "🦨"), ("sled", "🛷"), ("sleeping", "😴"), ("sleeping_accommodation", "🛌"),
   ("sleeping_face", "😴"), ("sleepy", "😪"), ("sleepy_face", "😪"), ("sleuth_or_spy", "🕵"),
   ("slightly_frowning_face", "🙁"), ("slightly_smiling_face", "🙂"), ("slot_machine", "🎰"),
   ("sloth", "🦥"), ("slovakia", "🇸🇰"), ("slovenia", "🇸🇮"), ("small_airplane", "🛩"),
   ("small_blue_diamond", "🔹"), ("small_orange_diamond", "🔸"), ("small_red_triangle", "🔺"),
   ("small_red_triangle_down", "🔻"), ("smile", "😄"), ("smile_cat", "😸"), ("smiley", "😃"),
   ("smiley_cat", "😺"), ("smiling_cat_face_with_heart-eyes", "😻"), ("smiling_face", "☺"),
   ("smiling_face_with_3_hearts", "🥰"), ("smiling_face_with_halo", "😇"),
   ("smiling_face_with_heart-eyes", "😍"), ("smiling_face_with_horns", "😈"),
   ("smiling_face_with_smiling_eyes", "😊"), ("smiling_face_with_sunglasses", "😎"),
   ("smiling_imp", "😈"), ("smirk", "😏"), ("smirk_cat", "😼"), ("smirking_face", "😏"),
   ("smoking", "🚬"), ("snail", "🐌"), ("snake", "🐍"), ("sneezing_face", "🤧"),
   ("snow-capped_mountain", "🏔"), ("snow_capped_mountain", "🏔"), ("snowboarder", "🏂"),
   ("snowboarder_dark_skin_tone", "🏂🏿"), ("snowboarder_light_skin_tone", "🏂🏻"),
   ("snowboarder_medium-dark_skin_tone", "🏂🏾"), ("snowboarder_medium-light_skin_tone", "🏂🏼"),
   ("snowboarder_medium_skin_tone", "🏂🏽"), ("snowflake", "❄"), ("snowman", "☃"),
   ("snowman_without_snow", "⛄"), ("soap", "🧼"), ("sob", "😭"), ("soccer", "⚽"),
   ("soccer_ball", "⚽"), ("socks", "🧦"), ("soft_ice_cream", "🍦"), ("softball", "🥎"),
   ("solomon_islands", "🇸🇧"), ("somalia", "🇸🇴"), ("soon", "🔜"), ("soon_arrow", "🔜"), ("sos", "🆘"),
   ("sos_button", "🆘"), ("sound", "🔉"), ("south_africa", "🇿🇦"),
   ("south_georgia_&_south_sandwich_islands", "🇬🇸"), ("south_korea", "🇰🇷"), ("south_sudan", "🇸🇸"),
   ("space_invader", "👾"), ("spade_suit", "♠"), ("spades", "♠"), ("spaghetti", "🍝"),
   ("spain", "🇪🇸"), ("sparkle", "❇"), ("sparkler", "🎇"), ("sparkles", "✨"),
   ("sparkling_heart", "💖"), ("speak-no-evil_monkey", "🙊"), ("speak_no_evil", "🙊"),
   ("speaker", "🔈"), ("speaker_high_volume", "🔊"), ("speaker_low_volume", "🔈"),
   ("speaker_medium_volume", "🔉"), ("speaking_head", "🗣"), ("speaking_head_in_silhouette", "🗣"),
   ("speech_balloon", "💬"), ("speedboat", "🚤"), ("spider", "🕷"), ("spider_web", "🕸"),
   ("spiral_calendar", "🗓"), ("spiral_calendar_pad", "🗓"), ("spiral_note_pad", "🗒"),
   ("spiral_notepad", "🗒"), ("spiral_shell", "🐚"), ("sponge", "🧽"), ("spoon", "🥄"),
   ("sport_utility_vehicle", "🚙"), ("sports_medal", "🏅"), ("spouting_whale", "🐳"), ("squid", "🦑"),
   ("squinting_face_with_tongue", "😝"), ("sri_lanka", "🇱🇰"), ("st._barthélemy", "🇧🇱"),
   ("st._helena", "🇸🇭"), ("st._kitts_&_nevis", "🇰🇳"), ("st._lucia", "🇱🇨"), ("st._martin", "🇲🇫"),
   ("st._pierre_&_miquelon", "🇵🇲"), ("st._vincent_&_grenadines", "🇻🇨"), ("stadium", "🏟"),
   ("star", "⭐"), ("star-struck", "🤩"), ("star2", "🌟"), ("star_and_crescent", "☪"),
   ("star_of_david", "✡"), ("stars", "🌠"), ("station", "🚉"), ("statue_of_liberty", "🗽"),
   ("steam_locomotive", "🚂"), ("steaming_bowl", "🍜"), ("stethoscope", "🩺"), ("stew", "🍲"),
   ("stop_button", "⏹"), ("stop_sign", "🛑"), ("stopwatch", "⏱"), ("straight_ruler", "📏"),
   ("strawberry", "🍓"), ("stuck_out_tongue", "😛"), ("stuck_out_tongue_closed_eyes", "😝"),
   ("stuck_out_tongue_winking_eye", "😜"), ("studio_microphone", "🎙"), ("stuffed_flatbread", "🥙"),
   ("sudan", "🇸🇩"), ("sun", "☀"), ("sun_behind_cloud", "⛅"), ("sun_behind_large_cloud", "🌥"),
   ("sun_behind_rain_cloud", "🌦"), ("sun_behind_small_cloud", "🌤"), ("sun_with_face", "🌞"),
   ("sunflower", "🌻"), ("sunglasses", "😎"), ("sunny", "☀"), ("sunrise", "🌅"),
   ("sunrise_over_mountains", "🌄"), ("sunset", "🌇"), ("superhero", "🦸"), ("supervillain", "🦹"),
   ("surfer", "🏄"), ("suriname", "🇸🇷"), ("sushi", "🍣"), ("suspension_railway", "🚟"),
   ("svalbard_&_jan_mayen", "🇸🇯"), ("swan", "🦢"), ("swaziland", "🇸🇿"), ("sweat", "😓"),
   ("sweat_droplets", "💦"), ("sweat_drops", "💦"), ("sweat_smile", "😅"), ("sweden", "🇸🇪"),
   ("sweet_potato", "🍠"), ("swimmer", "🏊"), ("switzerland", "🇨🇭"), ("symbols", "🔣"),
   ("synagogue", "🕍"), ("syria", "🇸🇾"), ("syringe", "💉"), ("são_tomé_&_príncipe", "🇸🇹")]

def namesT : List (String × String) :=
  [("t-rex", "🦖"), ("t-shirt", "👕"), ("table_tennis_paddle_and_ball", "🏓"), ("taco", "🌮"),
   ("tada", "🎉"), ("taiwan", "🇹🇼"), ("tajikistan", "🇹🇯"), ("takeout_box", "🥡"),
   ("tanabata_tree", "🎋"), ("tangerine", "🍊"), ("tanzania", "🇹🇿"), ("taurus", "♉"), ("taxi", "🚕"),
   ("tea", "🍵"), ("teacup_without_handle", "🍵"), ("tear-off_calendar", "📆"), ("teddy_bear", "🧸"),
   ("telephone", "☎"), ("telephone_receiver", "📞"), ("telescope", "🔭"), ("television", "📺"),
   ("ten", "🔟"), ("ten-thirty", "🕥"), ("ten_o’clock", "🕙"), ("tennis", "🎾"), ("tent", "⛺"),
   ("test_tube", "🧪"), ("thailand", "🇹🇭"), ("thermometer", "🌡"), ("thinking_face", "🤔"),
   ("thought_balloon", "💭"), ("thread", "🧵"), ("three", "3\uFE0F\u20E3"), ("three-thirty", "🕞"),
   ("three_button_mouse", "🖱"), ("three_o’clock", "🕒"), ("thumbs_down", "👎"),
   ("thumbs_down_dark_skin_tone", "👎🏿"), ("thumbs_down_light_skin_tone", "👎🏻"),
   ("thumbs_down_medium-dark_skin_tone", "👎🏾"), ("thumbs_down_medium-light_skin_tone", "👎🏼"),
   ("thumbs_down_medium_skin_tone", "👎🏽"), ("thumbs_up", "👍"), ("thumbs_up_dark_skin_tone", "👍🏿"),
   ("thumbs_up_light_skin_tone", "👍🏻"), ("thumbs_up_medium-dark_skin_tone", "👍🏾"),
   ("thumbs_up_medium-light_skin_tone", "👍🏼"), ("thumbs_up_medium_skin_tone", "👍🏽"),
   ("thumbsdown", "👎"), ("thumbsup", "👍"), ("thunder_cloud_and_rain", "⛈"), ("ticket", "🎫"),
   ("tiger", "🐯"), ("tiger2", "🐅"), ("tiger_face", "🐯"), ("timer_clock", "⏲"),
   ("timor-leste", "🇹🇱"), ("tired_face", "😫"), ("tm", "™"), ("togo", "🇹🇬"), ("toilet", "🚽"),
   ("tokelau", "🇹🇰"), ("tokyo_tower", "🗼"), ("tomato", "🍅"), ("tonga", "🇹🇴"), ("tongue", "👅"),
   ("toolbox", "🧰"), ("tooth", "🦷"), ("top", "🔝"), ("top_arrow", "🔝"), ("top_hat", "🎩"),
   ("tophat", "🎩"), ("tornado", "🌪"), ("trackball", "🖲"), ("tractor", "🚜"), ("trade_mark", "™"),
   ("traffic_light", "🚥"), ("train", "🚋"), ("train2", "🚆"), ("tram", "🚊"), ("tram_car", "🚋"),
   ("triangular_flag", "🚩"), ("triangular_flag_on_post", "🚩"), ("triangular_ruler", "📐"),
   ("trident", "🔱"), ("trident_emblem", "🔱"), ("trinidad_&_tobago", "🇹🇹"),
   ("tristan_da_cunha", "🇹🇦"), ("triumph", "😤"), ("trolleybus", "🚎"), ("trophy", "🏆"),
   ("tropical_drink", "🍹"), ("tropical_fish", "🐠"), ("truck", "🚚"), ("trumpet", "🎺"),
   ("tshirt", "👕"), ("tulip", "🌷"), ("tumbler_glass", "🥃"), ("tunisia", "🇹🇳"), ("turkey", "🦃"),
   ("turkmenistan", "🇹🇲"), ("turks_&_caicos_islands", "🇹🇨"), ("turtle", "🐢"), ("tuvalu", "🇹🇻"),
   ("tv", "📺"), ("twelve-thirty", "🕧"), ("twelve_o’clock", "🕛"), ("twisted_rightwards_arrows", "🔀"),
   ("two", "2\uFE0F\u20E3"), ("two-hump_camel", "🐫"), ("two-thirty", "🕝"), ("two_hearts", "💕"),
   ("two_men_holding_hands", "👬"), ("two_o’clock", "🕑"), ("two_women_holding_hands", "👭")]

def namesU : List (String × String) :=
  [("u.s._outlying_islands", "🇺🇲"), ("u.s._virgin_islands", "🇻🇮"), ("u5272", "🈹"), ("u5408", "🈴"),
   ("u55b6", "🈺"), ("u6307", "🈯"), ("u6708", "🈷"), ("u6709", "🈶"), ("u6e80", "🈵"), ("u7121", "🈚"),
   ("u7533", "🈸"), ("u7981", "🈲"), ("u7a7a", "🈳"), ("uganda", "🇺🇬"), ("ukraine", "🇺🇦"),
   ("umbrella", "☂"), ("umbrella_on_ground", "⛱"), ("umbrella_with_rain_drops", "☔"),
   ("unamused", "😒"), ("unamused_face", "😒"), ("underage", "🔞"), ("unicorn_face", "🦄"),
   ("united_arab_emirates", "🇦🇪"), ("united_kingdom", "🇬🇧"), ("united_nations", "🇺🇳"),
   ("united_states", "🇺🇸"), ("unlock", "🔓"), ("unlocked", "🔓"), ("up", "🆙"), ("up!_button", "🆙"),
   ("up-down_arrow", "↕"), ("up-left_arrow", "↖"), ("up-right_arrow", "↗"), ("up_arrow", "⬆"),
   ("upside-down_face", "🙃"), ("upside__down_face", "🙃"), ("upwards_button", "🔼"),
   ("uruguay", "🇺🇾"), ("uzbekistan", "🇺🇿")]

def namesV : List (String × String) :=
  [("v", "✌"), ("vampire", "🧛"), ("vampire_dark_skin_tone", "🧛🏿"),
   ("vampire_light_skin_tone", "🧛🏻"), ("vampire_medium-dark_skin_tone", "🧛🏾"),
   ("vampire_medium-light_skin_tone", "🧛🏼"), ("vampire_medium_skin_tone", "🧛🏽"), ("vanuatu", "🇻🇺"),
   ("vatican_city", "🇻🇦"), ("venezuela", "🇻🇪"), ("vertical_traffic_light", "🚦"), ("vhs", "📼"),
   ("vibration_mode", "📳"), ("victory_hand", "✌"), ("victory_hand_dark_skin_tone", "✌🏿"),
   ("victory_hand_light_skin_tone", "✌🏻"), ("victory_hand_medium-dark_skin_tone", "✌🏾"),
   ("victory_hand_medium-light_skin_tone", "✌🏼"), ("victory_hand_medium_skin_tone", "✌🏽"),
   ("video_camera", "📹"), ("video_game", "🎮"), ("videocassette", "📼"), ("vietnam", "🇻🇳"),
   ("violin", "🎻"), ("virgo", "♍"), ("volcano", "🌋"), ("volleyball", "🏐"), ("vs", "🆚"),
   ("vs_button", "🆚"), ("vulcan_salute", "🖖"), ("vulcan_salute_dark_skin_tone", "🖖🏿"),
   ("vulcan_salute_light_skin_tone", "🖖🏻"), ("vulcan_salute_medium-dark_skin_tone", "🖖🏾"),
   ("vulcan_salute_medium-light_skin_tone", "🖖🏼"), ("vulcan_salute_medium_skin_tone", "🖖🏽")]

def namesW : List (String × String) :=
  [("waffle", "🧇"), ("wales", "🏴󠁧󠁢󠁷󠁬󠁳󠁿"), ("walking", "🚶"), ("wallis_&_futuna", "🇼🇫"),
   ("waning_crescent_moon", "🌘"), ("waning_gibbous_moon", "🌖"), ("warning", "⚠"),
   ("wastebasket", "🗑"), ("watch", "⌚"), ("water_buffalo", "🐃"), ("water_closet", "🚾"),
   ("water_wave", "🌊"), ("watermelon", "🍉"), ("wave", "👋"), ("waving_black_flag", "🏴"),
   ("waving_hand", "👋"), ("waving_hand_dark_skin_tone", "👋🏿"),
   ("waving_hand_light_skin_tone", "👋🏻"), ("waving_hand_medium-dark_skin_tone", "👋🏾"),
   ("waving_hand_medium-light_skin_tone", "👋🏼"), ("waving_hand_medium_skin_tone", "👋🏽"),
   ("waving_white_flag", "🏳"), ("wavy_dash", "〰"), ("waxing_crescent_moon", "🌒"),
   ("waxing_gibbous_moon", "🌔"), ("wc", "🚾"), ("weary", "😩"), ("weary_cat_face", "🙀"),
   ("weary_face", "😩"), ("wedding", "💒"), ("weight_lifter", "🏋"), ("western_sahara", "🇪🇭"),
   ("whale", "🐳"), ("whale2", "🐋"), ("wheel_of_dharma", "☸"), ("wheelchair", "♿"),
   ("wheelchair_symbol", "♿"), ("white-haired_man", "👨\u200D🦳"), ("white-haired_woman", "👩\u200D🦳"),
   ("white_check_mark", "✅"), ("white_circle", "⚪"), ("white_exclamation_mark", "❕"),
   ("white_flag", "🏳"), ("white_flower", "💮"), ("white_frowning_face", "☹"), ("white_hair", "🦳"),
   ("white_heart", "🤍"), ("white_heavy_check_mark", "✅"), ("white_large_square", "⬜"),
   ("white_medium-small_square", "◽"), ("white_medium_small_square", "◽"),
   ("white_medium_square", "◻"), ("white_medium_star", "⭐"), ("white_question_mark", "❔"),
   ("white_small_square", "▫"), ("white_square_button", "🔳"), ("white_sun_behind_cloud", "🌥"),
   ("white_sun_behind_cloud_with_rain", "🌦"), ("white_sun_with_small_cloud", "🌤"),
   ("wilted_flower", "🥀"), ("wind_blowing_face", "🌬"), ("wind_chime", "🎐"), ("wind_face", "🌬"),
   ("wine_glass", "🍷"), ("wink", "😉"), ("winking_face", "😉"), ("winking_face_with_tongue", "😜"),
   ("wolf", "🐺"), ("wolf_face", "🐺"), ("woman", "👩"), ("woman_artist", "👩\u200D🎨"),
   ("woman_artist_dark_skin_tone", "👩🏿\u200D🎨"), ("woman_artist_light_skin_tone", "👩🏻\u200D🎨"),
   ("woman_artist_medium-dark_skin_tone", "👩🏾\u200D🎨"),
   ("woman_artist_medium-light_skin_tone", "👩🏼\u200D🎨"),
   ("woman_artist_medium_skin_tone", "👩🏽\u200D🎨"), ("woman_astronaut", "👩\u200D🚀"),
   ("woman_astronaut_dark_skin_tone", "👩🏿\u200D🚀"),
   ("woman_astronaut_light_skin_tone", "👩🏻\u200D🚀"),
   ("woman_astronaut_medium-dark_skin_tone", "👩🏾\u200D🚀"),
   ("woman_astronaut_medium-light_skin_tone", "👩🏼\u200D🚀"),
   ("woman_astronaut_medium_skin_tone", "👩🏽\u200D🚀"), ("woman_biking", "🚴\u200D♀\uFE0F"),
   ("woman_biking_dark_skin_tone", "🚴🏿\u200D♀\uFE0F"),
   ("woman_biking_light_skin_tone", "🚴🏻\u200D♀\uFE0F"),
   ("woman_biking_medium-dark_skin_tone", "🚴🏾\u200D♀\uFE0F"),
   ("woman_biking_medium-light_skin_tone", "🚴🏼\u200D♀\uFE0F"),
   ("woman_biking_medium_skin_tone", "🚴🏽\u200D♀\uFE0F"),
   ("woman_bouncing_ball", "⛹\uFE0F\u200D♀\uFE0F"),
   ("woman_bouncing_ball_dark_skin_tone", "⛹🏿\u200D♀\uFE0F"),
   ("woman_bouncing_ball_light_skin_tone", "⛹🏻\u200D♀\uFE0F"),
   ("woman_bouncing_ball_medium-dark_skin_tone", "⛹🏾\u200D♀\uFE0F"),
   ("woman_bouncing_ball_medium-light_skin_tone", "⛹🏼\u200D♀\uFE0F"),
   ("woman_bouncing_ball_medium_skin_tone", "⛹🏽\u200D♀\uFE0F"), ("woman_bowing", "🙇\u200D♀\uFE0F"),
   ("woman_bowing_dark_skin_tone", "🙇🏿\u200D♀\uFE0F"),
   ("woman_bowing_light_skin_tone", "🙇🏻\u200D♀\uFE0F"),
   ("woman_bowing_medium-dark_skin_tone", "🙇🏾\u200D♀\uFE0F"),
   ("woman_bowing_medium-light_skin_tone", "🙇🏼\u200D♀\uFE0F"),
   ("woman_bowing_medium_skin_tone", "🙇🏽\u200D♀\uFE0F"), ("woman_cartwheeling", "🤸\u200D♀\uFE0F"),
   ("woman_cartwheeling_dark_skin_tone", "🤸🏿\u200D♀\uFE0F"),
   ("woman_cartwheeling_light_skin_tone", "🤸🏻\u200D♀\uFE0F"),
   ("woman_cartwheeling_medium-dark_skin_tone", "🤸🏾\u200D♀\uFE0F"),
   ("woman_cartwheeling_medium-light_skin_tone", "🤸🏼\u200D♀\uFE0F"),
   ("woman_cartwheeling_medium_skin_tone", "🤸🏽\u200D♀\uFE0F"), ("woman_climbing", "🧗\u200D♀\uFE0F"),
   ("woman_climbing_dark_skin_tone", "🧗🏿\u200D♀\uFE0F"),
   ("woman_climbing_light_skin_tone", "🧗🏻\u200D♀\uFE0F"),
   ("woman_climbing_medium-dark_skin_tone", "🧗🏾\u200D♀\uFE0F"),
   ("woman_climbing_medium-light_skin_tone", "🧗🏼\u200D♀\uFE0F"),
   ("woman_climbing_medium_skin_tone", "🧗🏽\u200D♀\uFE0F"),
   ("woman_construction_worker", "👷\u200D♀\uFE0F"),
   ("woman_construction_worker_dark_skin_tone", "👷🏿\u200D♀\uFE0F"),
   ("woman_construction_worker_light_skin_tone", "👷🏻\u200D♀\uFE0F"),
   ("woman_construction_worker_medium-dark_skin_tone", "👷🏾\u200D♀\uFE0F"),
   ("woman_construction_worker_medium-light_skin_tone", "👷🏼\u200D♀\uFE0F"),
   ("woman_construction_worker_medium_skin_tone", "👷🏽\u200D♀\uFE0F"), ("woman_cook", "👩\u200D🍳"),
   ("woman_cook_dark_skin_tone", "👩🏿\u200D🍳"), ("woman_cook_light_skin_tone", "👩🏻\u200D🍳"),
   ("woman_cook_medium-dark_skin_tone", "👩🏾\u200D🍳"),
   ("woman_cook_medium-light_skin_tone", "👩🏼\u200D🍳"), ("woman_cook_medium_skin_tone", "👩🏽\u200D🍳"),
   ("woman_dancing", "💃"), ("woman_dancing_dark_skin_tone", "💃🏿"),
   ("woman_dancing_light_skin_tone", "💃🏻"), ("woman_dancing_medium-dark_skin_tone", "💃🏾"),
   ("woman_dancing_medium-light_skin_tone", "💃🏼"), ("woman_dancing_medium_skin_tone", "💃🏽"),
   ("woman_dark_skin_tone", "👩🏿"), ("woman_detective", "🕵\uFE0F\u200D♀\uFE0F"),
   ("woman_detective_dark_skin_tone", "🕵🏿\u200D♀\uFE0F"),
   ("woman_detective_light_skin_tone", "🕵🏻\u200D♀\uFE0F"),
   ("woman_detective_medium-dark_skin_tone", "🕵🏾\u200D♀\uFE0F"),
   ("woman_detective_medium-light_skin_tone", "🕵🏼\u200D♀\uFE0F"),
   ("woman_detective_medium_skin_tone", "🕵🏽\u200D♀\uFE0F"), ("woman_elf", "🧝\u200D♀\uFE0F"),
   ("woman_elf_dark_skin_tone", "🧝🏿\u200D♀\uFE0F"),
   ("woman_elf_light_skin_tone", "🧝🏻\u200D♀\uFE0F"),
   ("woman_elf_medium-dark_skin_tone", "🧝🏾\u200D♀\uFE0F"),
   ("woman_elf_medium-light_skin_tone", "🧝🏼\u200D♀\uFE0F"),
   ("woman_elf_medium_skin_tone", "🧝🏽\u200D♀\uFE0F"), ("woman_facepalming", "🤦\u200D♀\uFE0F"),
   ("woman_facepalming_dark_skin_tone", "🤦🏿\u200D♀\uFE0F"),
   ("woman_facepalming_light_skin_tone", "🤦🏻\u200D♀\uFE0F"),
   ("woman_facepalming_medium-dark_skin_tone", "🤦🏾\u200D♀\uFE0F"),
   ("woman_facepalming_medium-light_skin_tone", "🤦🏼\u200D♀\uFE0F"),
   ("woman_facepalming_medium_skin_tone", "🤦🏽\u200D♀\uFE0F"), ("woman_factory_worker", "👩\u200D🏭"),
   ("woman_factory_worker_dark_skin_tone", "👩🏿\u200D🏭"),
   ("woman_factory_worker_light_skin_tone", "👩🏻\u200D🏭"),
   ("woman_factory_worker_medium-dark_skin_tone", "👩🏾\u200D🏭"),
   ("woman_factory_worker_medium-light_skin_tone", "👩🏼\u200D🏭"),
   ("woman_factory_worker_medium_skin_tone", "👩🏽\u200D🏭"), ("woman_fairy", "🧚\u200D♀\uFE0F"),
   ("woman_fairy_dark_skin_tone", "🧚🏿\u200D♀\uFE0F"),
   ("woman_fairy_light_skin_tone", "🧚🏻\u200D♀\uFE0F"),
   ("woman_fairy_medium-dark_skin_tone", "🧚🏾\u200D♀\uFE0F"),
   ("woman_fairy_medium-light_skin_tone", "🧚🏼\u200D♀\uFE0F"),
   ("woman_fairy_medium_skin_tone", "🧚🏽\u200D♀\uFE0F"), ("woman_farmer", "👩\u200D🌾"),
   ("woman_farmer_dark_skin_tone", "👩🏿\u200D🌾"), ("woman_farmer_light_skin_tone", "👩🏻\u200D🌾"),
   ("woman_farmer_medium-dark_skin_tone", "👩🏾\u200D🌾"),
   ("woman_farmer_medium-light_skin_tone", "👩🏼\u200D🌾"),
   ("woman_farmer_medium_skin_tone", "👩🏽\u200D🌾"), ("woman_firefighter", "👩\u200D🚒"),
   ("woman_firefighter_dark_skin_tone", "👩🏿\u200D🚒"),
   ("woman_firefighter_light_skin_tone", "👩🏻\u200D🚒"),
   ("woman_firefighter_medium-dark_skin_tone", "👩🏾\u200D🚒"),
   ("woman_firefighter_medium-light_skin_tone", "👩🏼\u200D🚒"),
   ("woman_firefighter_medium_skin_tone", "👩🏽\u200D🚒"), ("woman_frowning", "🙍\u200D♀\uFE0F"),
   ("woman_frowning_dark_skin_tone", "🙍🏿\u200D♀\uFE0F"),
   ("woman_frowning_light_skin_tone", "🙍🏻\u200D♀\uFE0F"),
   ("woman_frowning_medium-dark_skin_tone", "🙍🏾\u200D♀\uFE0F"),
   ("woman_frowning_medium-light_skin_tone", "🙍🏼\u200D♀\uFE0F"),
   ("woman_frowning_medium_skin_tone", "🙍🏽\u200D♀\uFE0F"), ("woman_genie", "🧞\u200D♀\uFE0F"),
   ("woman_gesturing_no", "🙅\u200D♀\uFE0F"),
   ("woman_gesturing_no_dark_skin_tone", "🙅🏿\u200D♀\uFE0F"),
   ("woman_gesturing_no_light_skin_tone", "🙅🏻\u200D♀\uFE0F"),
   ("woman_gesturing_no_medium-dark_skin_tone", "🙅🏾\u200D♀\uFE0F"),
   ("woman_gesturing_no_medium-light_skin_tone", "🙅🏼\u200D♀\uFE0F"),
   ("woman_gesturing_no_medium_skin_tone", "🙅🏽\u200D♀\uFE0F"),
   ("woman_gesturing_ok", "🙆\u200D♀\uFE0F"),
   ("woman_gesturing_ok_dark_skin_tone", "🙆🏿\u200D♀\uFE0F"),
   ("woman_gesturing_ok_light_skin_tone", "🙆🏻\u200D♀\uFE0F"),
   ("woman_gesturing_ok_medium-dark_skin_tone", "🙆🏾\u200D♀\uFE0F"),
   ("woman_gesturing_ok_medium-light_skin_tone", "🙆🏼\u200D♀\uFE0F"),
   ("woman_gesturing_ok_medium_skin_tone", "🙆🏽\u200D♀\uFE0F"),
   ("woman_getting_haircut", "💇\u200D♀\uFE0F"),
   ("woman_getting_haircut_dark_skin_tone", "💇🏿\u200D♀\uFE0F"),
   ("woman_getting_haircut_light_skin_tone", "💇🏻\u200D♀\uFE0F"),
   ("woman_getting_haircut_medium-dark_skin_tone", "💇🏾\u200D♀\uFE0F"),
   ("woman_getting_haircut_medium-light_skin_tone", "💇🏼\u200D♀\uFE0F"),
   ("woman_getting_haircut_medium_skin_tone", "💇🏽\u200D♀\uFE0F"),
   ("woman_getting_massage", "💆\u200D♀\uFE0F"),
   ("woman_getting_massage_dark_skin_tone", "💆🏿\u200D♀\uFE0F"),
   ("woman_getting_massage_light_skin_tone", "💆🏻\u200D♀\uFE0F"),
   ("woman_getting_massage_medium-dark_skin_tone", "💆🏾\u200D♀\uFE0F"),
   ("woman_getting_massage_medium-light_skin_tone", "💆🏼\u200D♀\uFE0F"),
   ("woman_getting_massage_medium_skin_tone", "💆🏽\u200D♀\uFE0F"),
   ("woman_golfing", "🏌\uFE0F\u200D♀\uFE0F"), ("woman_golfing_dark_skin_tone", "🏌🏿\u200D♀\uFE0F"),
   ("woman_golfing_light_skin_tone", "🏌🏻\u200D♀\uFE0F"),
   ("woman_golfing_medium-dark_skin_tone", "🏌🏾\u200D♀\uFE0F"),
   ("woman_golfing_medium-light_skin_tone", "🏌🏼\u200D♀\uFE0F"),
   ("woman_golfing_medium_skin_tone", "🏌🏽\u200D♀\uFE0F"), ("woman_guard", "💂\u200D♀\uFE0F"),
   ("woman_guard_dark_skin_tone", "💂🏿\u200D♀\uFE0F"),
   ("woman_guard_light_skin_tone", "💂🏻\u200D♀\uFE0F"),
   ("woman_guard_medium-dark_skin_tone", "💂🏾\u200D♀\uFE0F"),
   ("woman_guard_medium-light_skin_tone", "💂🏼\u200D♀\uFE0F"),
   ("woman_guard_medium_skin_tone", "💂🏽\u200D♀\uFE0F"), ("woman_health_worker", "👩\u200D⚕\uFE0F"),
   ("woman_health_worker_dark_skin_tone", "👩🏿\u200D⚕\uFE0F"),
   ("woman_health_worker_light_skin_tone", "👩🏻\u200D⚕\uFE0F"),
   ("woman_health_worker_medium-dark_skin_tone", "👩🏾\u200D⚕\uFE0F"),
   ("woman_health_worker_medium-light_skin_tone", "👩🏼\u200D⚕\uFE0F"),
   ("woman_health_worker_medium_skin_tone", "👩🏽\u200D⚕\uFE0F"),
   ("woman_in_lotus_position", "🧘\u200D♀\uFE0F"),
   ("woman_in_lotus_position_dark_skin_tone", "🧘🏿\u200D♀\uFE0F"),
   ("woman_in_lotus_position_light_skin_tone", "🧘🏻\u200D♀\uFE0F"),
   ("woman_in_lotus_position_medium-dark_skin_tone", "🧘🏾\u200D♀\uFE0F"),
   ("woman_in_lotus_position_medium-light_skin_tone", "🧘🏼\u200D♀\uFE0F"),
   ("woman_in_lotus_position_medium_skin_tone", "🧘🏽\u200D♀\uFE0F"),
   ("woman_in_manual_wheelchair", "👩\u200D🦽"), ("woman_in_motorized_wheelchair", "👩\u200D🦼"),
   ("woman_in_steamy_room", "🧖\u200D♀\uFE0F"),
   ("woman_in_steamy_room_dark_skin_tone", "🧖🏿\u200D♀\uFE0F"),
   ("woman_in_steamy_room_light_skin_tone", "🧖🏻\u200D♀\uFE0F"),
   ("woman_in_steamy_room_medium-dark_skin_tone", "🧖🏾\u200D♀\uFE0F"),
   ("woman_in_steamy_room_medium-light_skin_tone", "🧖🏼\u200D♀\uFE0F"),
   ("woman_in_steamy_room_medium_skin_tone", "🧖🏽\u200D♀\uFE0F"), ("woman_judge", "👩\u200D⚖\uFE0F"),
   ("woman_judge_dark_skin_tone", "👩🏿\u200D⚖\uFE0F"),
   ("woman_judge_light_skin_tone", "👩🏻\u200D⚖\uFE0F"),
   ("woman_judge_medium-dark_skin_tone", "👩🏾\u200D⚖\uFE0F"),
   ("woman_judge_medium-light_skin_tone", "👩🏼\u200D⚖\uFE0F"),
   ("woman_judge_medium_skin_tone", "👩🏽\u200D⚖\uFE0F"), ("woman_juggling", "🤹\u200D♀\uFE0F"),
   ("woman_juggling_dark_skin_tone", "🤹🏿\u200D♀\uFE0F"),
   ("woman_juggling_light_skin_tone", "🤹🏻\u200D♀\uFE0F"),
   ("woman_juggling_medium-dark_skin_tone", "🤹🏾\u200D♀\uFE0F"),
   ("woman_juggling_medium-light_skin_tone", "🤹🏼\u200D♀\uFE0F"),
   ("woman_juggling_medium_skin_tone", "🤹🏽\u200D♀\uFE0F"),
   ("woman_lifting_weights", "🏋\uFE0F\u200D♀\uFE0F"),
   ("woman_lifting_weights_dark_skin_tone", "🏋🏿\u200D♀\uFE0F"),
   ("woman_lifting_weights_light_skin_tone", "🏋🏻\u200D♀\uFE0F"),
   ("woman_lifting_weights_medium-dark_skin_tone", "🏋🏾\u200D♀\uFE0F"),
   ("woman_lifting_weights_medium-light_skin_tone", "🏋🏼\u200D♀\uFE0F"),
   ("woman_lifting_weights_medium_skin_tone", "🏋🏽\u200D♀\uFE0F"), ("woman_light_skin_tone", "👩🏻"),
   ("woman_mage", "🧙\u200D♀\uFE0F"), ("woman_mage_dark_skin_tone", "🧙🏿\u200D♀\uFE0F"),
   ("woman_mage_light_skin_tone", "🧙🏻\u200D♀\uFE0F"),
   ("woman_mage_medium-dark_skin_tone", "🧙🏾\u200D♀\uFE0F"),
   ("woman_mage_medium-light_skin_tone", "🧙🏼\u200D♀\uFE0F"),
   ("woman_mage_medium_skin_tone", "🧙🏽\u200D♀\uFE0F"), ("woman_mechanic", "👩\u200D🔧"),
   ("woman_mechanic_dark_skin_tone", "👩🏿\u200D🔧"), ("woman_mechanic_light_skin_tone", "👩🏻\u200D🔧"),
   ("woman_mechanic_medium-dark_skin_tone", "👩🏾\u200D🔧"),
   ("woman_mechanic_medium-light_skin_tone", "👩🏼\u200D🔧"),
   ("woman_mechanic_medium_skin_tone", "👩🏽\u200D🔧"), ("woman_medium-dark_skin_tone", "👩🏾"),
   ("woman_medium-light_skin_tone", "👩🏼"), ("woman_medium_skin_tone", "👩🏽"),
   ("woman_mountain_biking", "🚵\u200D♀\uFE0F"),
   ("woman_mountain_biking_dark_skin_tone", "🚵🏿\u200D♀\uFE0F"),
   ("woman_mountain_biking_light_skin_tone", "🚵🏻\u200D♀\uFE0F"),
   ("woman_mountain_biking_medium-dark_skin_tone", "🚵🏾\u200D♀\uFE0F"),
   ("woman_mountain_biking_medium-light_skin_tone", "🚵🏼\u200D♀\uFE0F"),
   ("woman_mountain_biking_medium_skin_tone", "🚵🏽\u200D♀\uFE0F"),
   ("woman_office_worker", "👩\u200D💼"), ("woman_office_worker_dark_skin_tone", "👩🏿\u200D💼"),
   ("woman_office_worker_light_skin_tone", "👩🏻\u200D💼"),
   ("woman_office_worker_medium-dark_skin_tone", "👩🏾\u200D💼"),
   ("woman_office_worker_medium-light_skin_tone", "👩🏼\u200D💼"),
   ("woman_office_worker_medium_skin_tone", "👩🏽\u200D💼"), ("woman_pilot", "👩\u200D✈\uFE0F"),
   ("woman_pilot_dark_skin_tone", "👩🏿\u200D✈\uFE0F"),
   ("woman_pilot_light_skin_tone", "👩🏻\u200D✈\uFE0F"),
   ("woman_pilot_medium-dark_skin_tone", "👩🏾\u200D✈\uFE0F"),
   ("woman_pilot_medium-light_skin_tone", "👩🏼\u200D✈\uFE0F"),
   ("woman_pilot_medium_skin_tone", "👩🏽\u200D✈\uFE0F"),
   ("woman_playing_handball", "🤾\u200D♀\uFE0F"),
   ("woman_playing_handball_dark_skin_tone", "🤾🏿\u200D♀\uFE0F"),
   ("woman_playing_handball_light_skin_tone", "🤾🏻\u200D♀\uFE0F"),
   ("woman_playing_handball_medium-dark_skin_tone", "🤾🏾\u200D♀\uFE0F"),
   ("woman_playing_handball_medium-light_skin_tone", "🤾🏼\u200D♀\uFE0F"),
   ("woman_playing_handball_medium_skin_tone", "🤾🏽\u200D♀\uFE0F"),
   ("woman_playing_water_polo", "🤽\u200D♀\uFE0F"),
   ("woman_playing_water_polo_dark_skin_tone", "🤽🏿\u200D♀\uFE0F"),
   ("woman_playing_water_polo_light_skin_tone", "🤽🏻\u200D♀\uFE0F"),
   ("woman_playing_water_polo_medium-dark_skin_tone", "🤽🏾\u200D♀\uFE0F"),
   ("woman_playing_water_polo_medium-light_skin_tone", "🤽🏼\u200D♀\uFE0F"),
   ("woman_playing_water_polo_medium_skin_tone", "🤽🏽\u200D♀\uFE0F"),
   ("woman_police_officer", "👮\u200D♀\uFE0F"),
   ("woman_police_officer_dark_skin_tone", "👮🏿\u200D♀\uFE0F"),
   ("woman_police_officer_light_skin_tone", "👮🏻\u200D♀\uFE0F"),
   ("woman_police_officer_medium-dark_skin_tone", "👮🏾\u200D♀\uFE0F"),
   ("woman_police_officer_medium-light_skin_tone", "👮🏼\u200D♀\uFE0F"),
   ("woman_police_officer_medium_skin_tone", "👮🏽\u200D♀\uFE0F"),
   ("woman_pouting", "🙎\u200D♀\uFE0F"), ("woman_pouting_dark_skin_tone", "🙎🏿\u200D♀\uFE0F"),
   ("woman_pouting_light_skin_tone", "🙎🏻\u200D♀\uFE0F"),
   ("woman_pouting_medium-dark_skin_tone", "🙎🏾\u200D♀\uFE0F"),
   ("woman_pouting_medium-light_skin_tone", "🙎🏼\u200D♀\uFE0F"),
   ("woman_pouting_medium_skin_tone", "🙎🏽\u200D♀\uFE0F"), ("woman_raising_hand", "🙋\u200D♀\uFE0F"),
   ("woman_raising_hand_dark_skin_tone", "🙋🏿\u200D♀\uFE0F"),
   ("woman_raising_hand_light_skin_tone", "🙋🏻\u200D♀\uFE0F"),
   ("woman_raising_hand_medium-dark_skin_tone", "🙋🏾\u200D♀\uFE0F"),
   ("woman_raising_hand_medium-light_skin_tone", "🙋🏼\u200D♀\uFE0F"),
   ("woman_raising_hand_medium_skin_tone", "🙋🏽\u200D♀\uFE0F"),
   ("woman_rowing_boat", "🚣\u200D♀\uFE0F"), ("woman_rowing_boat_dark_skin_tone", "🚣🏿\u200D♀\uFE0F"),
   ("woman_rowing_boat_light_skin_tone", "🚣🏻\u200D♀\uFE0F"),
   ("woman_rowing_boat_medium-dark_skin_tone", "🚣🏾\u200D♀\uFE0F"),
   ("woman_rowing_boat_medium-light_skin_tone", "🚣🏼\u200D♀\uFE0F"),
   ("woman_rowing_boat_medium_skin_tone", "🚣🏽\u200D♀\uFE0F"), ("woman_running", "🏃\u200D♀\uFE0F"),
   ("woman_running_dark_skin_tone", "🏃🏿\u200D♀\uFE0F"),
   ("woman_running_light_skin_tone", "🏃🏻\u200D♀\uFE0F"),
   ("woman_running_medium-dark_skin_tone", "🏃🏾\u200D♀\uFE0F"),
   ("woman_running_medium-light_skin_tone", "🏃🏼\u200D♀\uFE0F"),
   ("woman_running_medium_skin_tone", "🏃🏽\u200D♀\uFE0F"), ("woman_scientist", "👩\u200D🔬"),
   ("woman_scientist_dark_skin_tone", "👩🏿\u200D🔬"),
   ("woman_scientist_light_skin_tone", "👩🏻\u200D🔬"),
   ("woman_scientist_medium-dark_skin_tone", "👩🏾\u200D🔬"),
   ("woman_scientist_medium-light_skin_tone", "👩🏼\u200D🔬"),
   ("woman_scientist_medium_skin_tone", "👩🏽\u200D🔬"), ("woman_shrugging", "🤷\u200D♀\uFE0F"),
   ("woman_shrugging_dark_skin_tone", "🤷🏿\u200D♀\uFE0F"),
   ("woman_shrugging_light_skin_tone", "🤷🏻\u200D♀\uFE0F"),
   ("woman_shrugging_medium-dark_skin_tone", "🤷🏾\u200D♀\uFE0F"),
   ("woman_shrugging_medium-light_skin_tone", "🤷🏼\u200D♀\uFE0F"),
   ("woman_shrugging_medium_skin_tone", "🤷🏽\u200D♀\uFE0F"), ("woman_singer", "👩\u200D🎤"),
   ("woman_singer_dark_skin_tone", "👩🏿\u200D🎤"), ("woman_singer_light_skin_tone", "👩🏻\u200D🎤"),
   ("woman_singer_medium-dark_skin_tone", "👩🏾\u200D🎤"),
   ("woman_singer_medium-light_skin_tone", "👩🏼\u200D🎤"),
   ("woman_singer_medium_skin_tone", "👩🏽\u200D🎤"), ("woman_student", "👩\u200D🎓"),
   ("woman_student_dark_skin_tone", "👩🏿\u200D🎓"), ("woman_student_light_skin_tone", "👩🏻\u200D🎓"),
   ("woman_student_medium-dark_skin_tone", "👩🏾\u200D🎓"),
   ("woman_student_medium-light_skin_tone", "👩🏼\u200D🎓"),
   ("woman_student_medium_skin_tone", "👩🏽\u200D🎓"), ("woman_surfing", "🏄\u200D♀\uFE0F"),
   ("woman_surfing_dark_skin_tone", "🏄🏿\u200D♀\uFE0F"),
   ("woman_surfing_light_skin_tone", "🏄🏻\u200D♀\uFE0F"),
   ("woman_surfing_medium-dark_skin_tone", "🏄🏾\u200D♀\uFE0F"),
   ("woman_surfing_medium-light_skin_tone", "🏄🏼\u200D♀\uFE0F"),
   ("woman_surfing_medium_skin_tone", "🏄🏽\u200D♀\uFE0F"), ("woman_swimming", "🏊\u200D♀\uFE0F"),
   ("woman_swimming_dark_skin_tone", "🏊🏿\u200D♀\uFE0F"),
   ("woman_swimming_light_skin_tone", "🏊🏻\u200D♀\uFE0F"),
   ("woman_swimming_medium-dark_skin_tone", "🏊🏾\u200D♀\uFE0F"),
   ("woman_swimming_medium-light_skin_tone", "🏊🏼\u200D♀\uFE0F"),
   ("woman_swimming_medium_skin_tone", "🏊🏽\u200D♀\uFE0F"), ("woman_teacher", "👩\u200D🏫"),
   ("woman_teacher_dark_skin_tone", "👩🏿\u200D🏫"), ("woman_teacher_light_skin_tone", "👩🏻\u200D🏫"),
   ("woman_teacher_medium-dark_skin_tone", "👩🏾\u200D🏫"),
   ("woman_teacher_medium-light_skin_tone", "👩🏼\u200D🏫"),
   ("woman_teacher_medium_skin_tone", "👩🏽\u200D🏫"), ("woman_technologist", "👩\u200D💻"),
   ("woman_technologist_dark_skin_tone", "👩🏿\u200D💻"),
   ("woman_technologist_light_skin_tone", "👩🏻\u200D💻"),
   ("woman_technologist_medium-dark_skin_tone", "👩🏾\u200D💻"),
   ("woman_technologist_medium-light_skin_tone", "👩🏼\u200D💻"),
   ("woman_technologist_medium_skin_tone", "👩🏽\u200D💻"), ("woman_tipping_hand", "💁\u200D♀\uFE0F"),
   ("woman_tipping_hand_dark_skin_tone", "💁🏿\u200D♀\uFE0F"),
   ("woman_tipping_hand_light_skin_tone", "💁🏻\u200D♀\uFE0F"),
   ("woman_tipping_hand_medium-dark_skin_tone", "💁🏾\u200D♀\uFE0F"),
   ("woman_tipping_hand_medium-light_skin_tone", "💁🏼\u200D♀\uFE0F"),
   ("woman_tipping_hand_medium_skin_tone", "💁🏽\u200D♀\uFE0F"), ("woman_vampire", "🧛\u200D♀\uFE0F"),
   ("woman_vampire_dark_skin_tone", "🧛🏿\u200D♀\uFE0F"),
   ("woman_vampire_light_skin_tone", "🧛🏻\u200D♀\uFE0F"),
   ("woman_vampire_medium-dark_skin_tone", "🧛🏾\u200D♀\uFE0F"),
   ("woman_vampire_medium-light_skin_tone", "🧛🏼\u200D♀\uFE0F"),
   ("woman_vampire_medium_skin_tone", "🧛🏽\u200D♀\uFE0F"), ("woman_walking", "🚶\u200D♀\uFE0F"),
   ("woman_walking_dark_skin_tone", "🚶🏿\u200D♀\uFE0F"),
   ("woman_walking_light_skin_tone", "🚶🏻\u200D♀\uFE0F"),
   ("woman_walking_medium-dark_skin_tone", "🚶🏾\u200D♀\uFE0F"),
   ("woman_walking_medium-light_skin_tone", "🚶🏼\u200D♀\uFE0F"),
   ("woman_walking_medium_skin_tone", "🚶🏽\u200D♀\uFE0F"),
   ("woman_wearing_turban", "👳\u200D♀\uFE0F"),
   ("woman_wearing_turban_dark_skin_tone", "👳🏿\u200D♀\uFE0F"),
   ("woman_wearing_turban_light_skin_tone", "👳🏻\u200D♀\uFE0F"),
   ("woman_wearing_turban_medium-dark_skin_tone", "👳🏾\u200D♀\uFE0F"),
   ("woman_wearing_turban_medium-light_skin_tone", "👳🏼\u200D♀\uFE0F"),
   ("woman_wearing_turban_medium_skin_tone", "👳🏽\u200D♀\uFE0F"), ("woman_with_headscarf", "🧕"),
   ("woman_with_headscarf_dark_skin_tone", "🧕🏿"), ("woman_with_headscarf_light_skin_tone", "🧕🏻"),
   ("woman_with_headscarf_medium-dark_skin_tone", "🧕🏾"),
   ("woman_with_headscarf_medium-light_skin_tone", "🧕🏼"),
   ("woman_with_headscarf_medium_skin_tone", "🧕🏽"), ("woman_with_probing_cane", "👩\u200D🦯"),
   ("woman_zombie", "🧟\u200D♀\uFE0F"), ("womans_clothes", "👚"), ("womans_hat", "👒"),
   ("woman’s_boot", "👢"), ("woman’s_clothes", "👚"), ("woman’s_hat", "👒"), ("woman’s_sandal", "👡"),
   ("women_with_bunny_ears", "👯\u200D♀\uFE0F"), ("women_wrestling", "🤼\u200D♀\uFE0F"),
   ("womens", "🚺"), ("women’s_room", "🚺"), ("woozy_face", "🥴"), ("world_map", "🗺"),
   ("worried", "😟"), ("worried_face", "😟"), ("wrapped_gift", "🎁"), ("wrench", "🔧"),
   ("writing_hand", "✍"), ("writing_hand_dark_skin_tone", "✍🏿"),
   ("writing_hand_light_skin_tone", "✍🏻"), ("writing_hand_medium-dark_skin_tone", "✍🏾"),
   ("writing_hand_medium-light_skin_tone", "✍🏼"), ("writing_hand_medium_skin_tone", "✍🏽")]

def namesX : List (String × String) :=
  [("x", "❌")]

def namesY : List (String × String) :=
  [("yarn", "🧶"), ("yawning_face", "🥱"), ("yellow_circle", "🟡"), ("yellow_heart", "💛"),
   ("yellow_square", "🟨"), ("yemen", "🇾🇪"), ("yen", "💴"), ("yen_banknote", "💴"), ("yin_yang", "☯"),
   ("yo-yo", "🪀"), ("yum", "😋")]

def namesZ : List (String × String) :=
  [("zambia", "🇿🇲"), ("zany_face", "🤪"), ("zap", "⚡"), ("zebra", "🦓"), ("zero", "0\uFE0F\u20E3"),
   ("zimbabwe", "🇿🇼"), ("zipper-mouth_face", "🤐"), ("zipper__mouth_face", "🤐"), ("zombie", "🧟"),
   ("zzz", "💤")]

end MiniLex.Picture
